import Rstream.IoRstrm.Client.Completions
import Rstream.IoRstrm.ContextSelection
import Rstream.IoRstrm.Handshake

/-!
# The tokens of the control channel

The constructor of the client asks for a token twice, once for an address without a client
certificate and once for one with a certificate, and keeps what it gets: the token, or the error
code. What it asks does not know the address that the client is going to connect to. The details
the control channel sends are nevertheless those that a handshake finds for the address itself,
since the lookup reads of an address only whether it has a client certificate.
-/

namespace Rstream.IoRstrm

/-! ## The lookup -/

/-- `tcp://localhost`. -/
def plainAddress : Address := { scheme := "tcp", host := "localhost" }

/-- `tcp://localhost?ssl&ssl.cert_file=snapshot`. -/
def certificateAddress : Address :=
  { scheme := "tcp", host := "localhost"
    params := [⟨"ssl", none⟩, ⟨"ssl.cert_file", some "snapshot"⟩] }

theorem getRstreamToken_congr (surroundings : Surroundings) (config : Config)
    {first second : Address}
    (same : hasClientCertificateConfig first = hasClientCertificateConfig second) :
    surroundings.getRstreamToken config first = surroundings.getRstreamToken config second := by
  rw [Surroundings.getRstreamToken, Surroundings.getRstreamToken, same]

theorem getRstreamToken_of_certificate {surroundings : Surroundings} {config : Config}
    {address : Address} (certificate : hasClientCertificateConfig address = true)
    {token : Option String} (found : surroundings.getRstreamToken config address = .ok token) :
    token = none := by
  unfold Surroundings.getRstreamToken at found
  simp only [certificate, if_true] at found
  split at found
  · cases found
    rfl
  · split at found
    · cases found
    · split at found
      · cases found
      · cases found
        rfl

theorem getClientDetails_eq (surroundings : Surroundings) (host : Host) (config : Config)
    (address : Address) :
    surroundings.getClientDetails host.identity config address =
      (surroundings.getRstreamToken config address).map (getClientDetails host) := by
  rw [Surroundings.getClientDetails]
  cases found : surroundings.getRstreamToken config address with
  | error errorCode => rfl
  | ok token =>
    by_cases certificate : hasClientCertificateConfig address = true
    · rw [getRstreamToken_of_certificate certificate found]
      rfl
    · dsimp only
      rw [if_neg fun both => certificate both.2]
      rfl

/-! ## What the constructor keeps -/

/-- A token and the error code of its lookup, as the constructor keeps them: `m_token` with
`m_token_error`, and `m_mtls_token` with `m_mtls_token_error`. -/
structure TokenSnapshot where
  token : Option String := none
  errorCode : ErrorCode := .none

/-- What the constructor keeps of a lookup. -/
def TokenSnapshot.take : Except ErrorCode (Option String) → TokenSnapshot
  | .ok token => { token := token }
  | .error errorCode => { errorCode := errorCode }

/-- A branch of `effective_client_details`: an error code that is one is returned. -/
def TokenSnapshot.details (host : Host) (snapshot : TokenSnapshot) :
    Except ErrorCode ClientDetails :=
  if snapshot.errorCode.failed then .error snapshot.errorCode
  else .ok (getClientDetails host snapshot.token)

namespace Client

variable {host : Host} {s t : Client}

/-- The client of a configuration, constructed where the surroundings are what they are. -/
def construct (surroundings : Surroundings) (config : ConfigClient)
    (defaultServerAddress : Except ErrorCode Address) : Client :=
  make config defaultServerAddress (surroundings.getRstreamToken config.toConfig plainAddress)
    (surroundings.getRstreamToken config.toConfig certificateAddress)

/-! ## The tokens along a run -/

/-- The tokens are those of the constructor. -/
structure KeepsTokens (s t : Client) : Prop where
  token : t.token = s.token
  mtlsToken : t.mtlsToken = s.mtlsToken

theorem KeepsTokens.trans {u : Client} (first : KeepsTokens s t) (second : KeepsTokens t u) :
    KeepsTokens s u :=
  ⟨second.token.trans first.token, second.mtlsToken.trans first.mtlsToken⟩

theorem Effect.keepsTokens {area : Area} (effect : Effect host area s t) : KeepsTokens s t := by
  cases effect <;> exact ⟨rfl, rfl⟩

theorem Effects.keepsTokens {areas : List Area} (effects : Effects host areas s t) :
    KeepsTokens s t :=
  effects.invariant (fun _ effect before => before.trans effect.keepsTokens) ⟨rfl, rfl⟩

theorem KeepsTokens.step (invariant : s.Invariant) {event : Event}
    (taken : step host s event = some t) : KeepsTokens s t := by
  rcases step_cases taken with ⟨call, rfl, rfl⟩ | ⟨index, input, task, rfl, found, rfl⟩
  · have effects : Effects host [.control, .calling] s (s.call call) :=
      call_effects invariant.wellFormed call
    exact effects.keepsTokens
  · have removed : KeepsTokens s (s.takeTask index) := ⟨rfl, rfl⟩
    exact removed.trans (run_effects host invariant found input).keepsTokens

theorem KeepsTokens.run (invariant : s.Invariant) (run : Library.Reaches (Client.step host) s t) :
    KeepsTokens s t := by
  have both : t.Invariant ∧ KeepsTokens s t := by
    refine run.invariant (p := fun u => u.Invariant ∧ KeepsTokens s u) ?_ ?_
    · exact ⟨invariant, rfl, rfl⟩
    · intro before event after holds _ taken
      exact ⟨holds.1.step taken, holds.2.trans (.step holds.1 taken)⟩
  exact both.2

/-! ## The details -/

theorem hasClientCertificateConfig_plain : hasClientCertificateConfig plainAddress = false := by
  decide

theorem hasClientCertificateConfig_certificate :
    hasClientCertificateConfig certificateAddress = true := by decide

theorem KeepsTokens.effectiveClientDetails {surroundings : Surroundings} {config : ConfigClient}
    {defaultServerAddress : Except ErrorCode Address}
    (tokens : KeepsTokens (construct surroundings config defaultServerAddress) s)
    (address : Address) :
    ({ s with serverAddress := address } : Client).effectiveClientDetails host =
      surroundings.getClientDetails host.identity config.toConfig address := by
  rw [getClientDetails_eq, Client.effectiveClientDetails]
  dsimp only
  by_cases certificate : hasClientCertificateConfig address = true
  · have same : surroundings.getRstreamToken config.toConfig address = s.mtlsToken :=
      (getRstreamToken_congr surroundings config.toConfig
        (certificate.trans hasClientCertificateConfig_certificate.symm)).trans
        tokens.mtlsToken.symm
    rw [if_pos certificate, same]
  · have same : surroundings.getRstreamToken config.toConfig address = s.token :=
      (getRstreamToken_congr surroundings config.toConfig
        ((Bool.not_eq_true _ ▸ certificate).trans hasClientCertificateConfig_plain.symm)).trans
        tokens.token.symm
    rw [if_neg certificate, same]

theorem getClientDetails_token_of_certificate {surroundings : Surroundings} {config : Config}
    {address : Address} (certificate : hasClientCertificateConfig address = true)
    {details : ClientDetails}
    (found : surroundings.getClientDetails host.identity config address = .ok details) :
    details.token = none := by
  rw [getClientDetails_eq] at found
  cases result : surroundings.getRstreamToken config address with
  | error errorCode =>
    rw [result] at found
    cases found
  | ok token =>
    rw [result, getRstreamToken_of_certificate certificate result] at found
    cases found
    rfl

/-- In every state of every run of a client, the details its control channel sends to an address
are those a handshake finds for the address in the surroundings of the constructor, errors
included; and where the address has a client certificate these have no token. -/
theorem effectiveClientDetails_eq (host : Host) (surroundings : Surroundings)
    (config : ConfigClient) (defaultServerAddress : Except ErrorCode Address) (s : Client)
    (run : Library.Reaches (step host) (construct surroundings config defaultServerAddress) s)
    (address : Address) :
    ({ s with serverAddress := address } : Client).effectiveClientDetails host =
        surroundings.getClientDetails host.identity config.toConfig address ∧
      (hasClientCertificateConfig address = true → ∀ details,
        ({ s with serverAddress := address } : Client).effectiveClientDetails host = .ok details ∨
          surroundings.getClientDetails host.identity config.toConfig address = .ok details →
        details.token = none) := by
  have tokens := KeepsTokens.run (invariant_make _ _ _ _) run
  have same := @KeepsTokens.effectiveClientDetails host s _ _ _ tokens address
  refine ⟨same, fun certificate details found => ?_⟩
  rw [same, or_self] at found
  exact getClientDetails_token_of_certificate certificate found

/-- A token in the process environment and an address with a certificate: the error of both. -/
theorem effectiveClientDetails_conflict :
    ({ construct { getenv := fun _ => some "secret" } {} (.error .none) with
        serverAddress := certificateAddress } : Client).effectiveClientDetails Host.plain =
      .error Error.Code.authenticationConflict := by
  rw [(effectiveClientDetails_eq Host.plain { getenv := fun _ => some "secret" } {} (.error .none)
    _ .refl certificateAddress).1]
  decide

end Client

end Rstream.IoRstrm
