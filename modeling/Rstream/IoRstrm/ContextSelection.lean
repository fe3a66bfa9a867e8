import Rstream.IoRstrm.Credentials

/-!
# Selecting a context of the configuration file

A configuration file lists its contexts in an order that should not matter: which of them is used
decides to which engine the credentials go. The selection filters the list by the name and by the
API URL, with a fallback to the contexts without a URL, and takes what is left when it is one
entry.

What is left of a list depends on the order only when two entries are left, and then the selection
fails. So the outcome is that of every reordering (`resolveConfigSelection_perm`), and a selected
context is the only one it could have been (`Selectable`).
-/

namespace Rstream.IoRstrm

/-! ## What the file says beside the token -/

/-- The settings of the context, or else of the environment, when they are there. -/
def ResolvedConfig.settings {α : Type} (resolved : ResolvedConfig)
    (ofContext : ConfigContext → α) (ofEnvironment : ConfigEnvironment → α)
    (present : α → Bool) : Option α :=
  ((resolved.context.map ofContext).filter present).or
    ((resolved.environment.map ofEnvironment).filter present)

def Surroundings.resolveEngineFromConfig (surroundings : Surroundings) (file : ConfigFile)
    (apiUrlExplicit contextName : String) : Except ErrorCode (Option String) :=
  (surroundings.resolveConfigSelection file apiUrlExplicit contextName).map fun resolved =>
    (resolved.context.map (·.engine)).filter (· ≠ "")

def Surroundings.resolveMtlsFromConfig (surroundings : Surroundings) (file : ConfigFile)
    (apiUrlExplicit contextName : String) : Except ErrorCode (Option ConfigMtls) :=
  (surroundings.resolveConfigSelection file apiUrlExplicit contextName).map fun resolved =>
    resolved.settings (·.auth.mtls) (·.auth.mtls) (·.present)

def Surroundings.resolveTlsFromConfig (surroundings : Surroundings) (file : ConfigFile)
    (apiUrlExplicit contextName : String) : Except ErrorCode (Option ConfigTls) :=
  (surroundings.resolveConfigSelection file apiUrlExplicit contextName).map fun resolved =>
    resolved.settings (·.transport.tls) (·.transport.tls) (·.present)

/-! ## The only entry of a list -/

section OnlyEntry

variable {α : Type}

/-- One position of the list holds an entry with the property, and it is this entry. -/
def OnlyOne (property : α → Prop) (entries : List α) (entry : α) : Prop :=
  ∃ before after, entries = before ++ entry :: after ∧ property entry ∧
    ∀ other ∈ before ++ after, ¬property other

theorem onlyEntry_ok_iff {entries : List α} {entry : α} :
    onlyEntry entries = .ok entry ↔ entries = [entry] := by
  unfold onlyEntry
  split
  · rw [Except.ok.injEq, List.singleton_inj]
  · rename_i many
    constructor
    · intro found
      cases found
    · intro single
      exact absurd single (many entry)

/-- A list with one entry has one order, and every other list fails alike. -/
theorem onlyEntry_perm {first second : List α} (perm : first.Perm second) :
    onlyEntry first = onlyEntry second := by
  by_cases single : ∃ entry, second = [entry]
  · obtain ⟨entry, rfl⟩ := single
    rw [List.perm_singleton.mp perm]
  · have other : ∀ entry, first ≠ [entry] := by
      rintro entry rfl
      exact single ⟨entry, (List.singleton_perm.mp perm).symm⟩
    have fails : ∀ {entries : List α}, (∀ entry, entries ≠ [entry]) →
        onlyEntry entries = .error Error.Code.invalidConfiguration := by
      intro entries many
      unfold onlyEntry
      split
      · rename_i entry
        exact absurd rfl (many entry)
      · rfl
    rw [fails other, fails fun entry found => single ⟨entry, found⟩]

theorem filter_eq_singleton_iff {property : α → Bool} {meaning : α → Prop}
    (means : ∀ entry, property entry = true ↔ meaning entry) {entries : List α} {entry : α} :
    entries.filter property = [entry] ↔ OnlyOne meaning entries entry := by
  obtain rfl : (fun entry => property entry = true) = meaning := by
    funext entry
    exact propext (means entry)
  rw [List.filter_eq_cons_iff]
  constructor
  · rintro ⟨before, after, rfl, absent, found, rest⟩
    refine ⟨before, after, rfl, found, fun other mem => ?_⟩
    rcases List.mem_append.mp mem with earlier | later
    · exact absent other earlier
    · exact List.filter_eq_nil_iff.mp rest other later
  · rintro ⟨before, after, rfl, found, absent⟩
    refine ⟨before, after, rfl, fun other mem => ?_, found, ?_⟩
    · exact absent other (List.mem_append_left _ mem)
    · exact List.filter_eq_nil_iff.mpr fun other mem => absent other (List.mem_append_right _ mem)

end OnlyEntry

/-! ## The selected context -/

/-- A context that may be selected: without an explicit API URL the only one of the name; with
one, the only one of the name and the URL or, when no context of the name has the URL, the only
one of the name without any URL. -/
inductive Selectable (file : ConfigFile) (apiUrlExplicit contextName : String)
    (context : ConfigContext) : Prop where
  | named (noUrl : apiUrlExplicit = "")
      (only : OnlyOne (fun entry => entry.name = contextName) file.contexts context)
  | linked (url : apiUrlExplicit ≠ "")
      (only : OnlyOne (fun entry => entry.name = contextName ∧ entry.apiUrl = apiUrlExplicit)
        file.contexts context)
  | unlinked (url : apiUrlExplicit ≠ "")
      (absent : ∀ entry ∈ file.contexts, entry.name = contextName → entry.apiUrl ≠ apiUrlExplicit)
      (only : OnlyOne (fun entry => entry.name = contextName ∧ entry.apiUrl = "")
        file.contexts context)

theorem selectContext_ok_iff {file : ConfigFile} {apiUrlExplicit contextName : String}
    {context : ConfigContext} :
    selectContext file apiUrlExplicit contextName = .ok context ↔
      Selectable file apiUrlExplicit contextName context := by
  have named : file.contexts.filter (·.name == contextName) = [context] ↔
      OnlyOne (fun entry => entry.name = contextName) file.contexts context :=
    filter_eq_singleton_iff fun entry => beq_iff_eq
  have both (url : String) :
      (file.contexts.filter (·.name == contextName)).filter (·.apiUrl == url) = [context] ↔
        OnlyOne (fun entry => entry.name = contextName ∧ entry.apiUrl = url)
          file.contexts context := by
    rw [List.filter_filter]
    refine filter_eq_singleton_iff fun entry => ?_
    rw [Bool.and_eq_true, beq_iff_eq, beq_iff_eq, and_comm]
  unfold selectContext
  by_cases noUrl : apiUrlExplicit = ""
  · rw [if_pos noUrl, onlyEntry_ok_iff, named]
    constructor
    · exact .named noUrl
    · rintro (⟨-, only⟩ | ⟨url, -⟩ | ⟨url, -, -⟩)
      · exact only
      · exact absurd noUrl url
      · exact absurd noUrl url
  · dsimp only
    rw [if_neg noUrl]
    have empty : ((file.contexts.filter (·.name == contextName)).filter
        (·.apiUrl == apiUrlExplicit)).isEmpty = true ↔
        ∀ entry ∈ file.contexts, entry.name = contextName → entry.apiUrl ≠ apiUrlExplicit := by
      rw [List.isEmpty_iff, List.filter_eq_nil_iff]
      simp only [List.mem_filter, beq_iff_eq, and_imp, ne_eq]
    split
    · rename_i isEmpty
      have absent := empty.mp isEmpty
      rw [onlyEntry_ok_iff, both]
      constructor
      · exact .unlinked noUrl absent
      · rintro (⟨yes, -⟩ | ⟨-, before, after, list, ⟨name, url⟩, -⟩ | ⟨-, -, only⟩)
        · exact absurd yes noUrl
        · exact absurd url (absent context (by simp [list]) name)
        · exact only
    · rename_i some
      rw [onlyEntry_ok_iff, both]
      constructor
      · exact .linked noUrl
      · rintro (⟨yes, -⟩ | ⟨-, only⟩ | ⟨-, absent, -⟩)
        · exact absurd yes noUrl
        · exact only
        · exact absurd (empty.mpr absent) some

theorem selectContext_perm {first second : ConfigFile}
    (perm : first.contexts.Perm second.contexts) (apiUrlExplicit contextName : String) :
    selectContext first apiUrlExplicit contextName =
      selectContext second apiUrlExplicit contextName := by
  have candidates := perm.filter (·.name == contextName)
  have exact := candidates.filter (·.apiUrl == apiUrlExplicit)
  unfold selectContext
  dsimp only
  rw [onlyEntry_perm candidates, onlyEntry_perm (candidates.filter (·.apiUrl == "")),
    onlyEntry_perm exact, exact.isEmpty_eq]

/-! ## The selection as a whole -/

/-- What follows the choice of the context. -/
def Surroundings.resolveSelected (surroundings : Surroundings) (file : ConfigFile)
    (apiUrlExplicit : String) (context : Option ConfigContext) :
    Except ErrorCode ResolvedConfig :=
  let apiUrl := if apiUrlExplicit = "" then context.elim "" (·.apiUrl) else apiUrlExplicit
  let apiUrl := if apiUrl = "" then "https://rstream.io" else apiUrl
  let environment := if context.any (·.apiUrl == "") then none
    else file.environments.find? (·.apiUrl == apiUrl)
  if apiUrlExplicit ≠ "" ∧ context.any fun entry =>
      entry.apiUrl != "" && entry.apiUrl != apiUrlExplicit then
    .error Error.Code.invalidConfiguration
  else
    surroundings.resolveTunnelTransportMode environment context >>= fun _ =>
      if context.any (fun entry => transportProxyRequested entry.transport.proxy)
          ∨ environment.any (fun entry => transportProxyRequested entry.transport.proxy) then
        .error Error.Code.invalidConfiguration
      else .ok { apiUrl, environment, context }

/-- The context an invocation asks for, if it names one. -/
def requestedContext (file : ConfigFile) (apiUrlExplicit contextName : String) :
    Except ErrorCode (Option ConfigContext) :=
  if contextName = "" then .ok none
  else some <$> selectContext file apiUrlExplicit contextName

theorem resolveConfigSelection_eq (surroundings : Surroundings) (file : ConfigFile)
    (apiUrlExplicit contextName : String) :
    surroundings.resolveConfigSelection file apiUrlExplicit contextName =
      requestedContext file apiUrlExplicit contextName >>=
        surroundings.resolveSelected file apiUrlExplicit := by
  have rest (context : Option ConfigContext) :
      (do
        if apiUrlExplicit ≠ "" ∧ context.any fun entry =>
            entry.apiUrl != "" && entry.apiUrl != apiUrlExplicit then
          .error Error.Code.invalidConfiguration
        let linked := context.elim "" (·.apiUrl)
        let apiUrl := if apiUrlExplicit = "" then linked else apiUrlExplicit
        let apiUrl := if apiUrl = "" then "https://rstream.io" else apiUrl
        let environment := if context.any (·.apiUrl == "") then none
          else file.environments.find? (·.apiUrl == apiUrl)
        let _ ← surroundings.resolveTunnelTransportMode environment context
        if context.any (fun entry => transportProxyRequested entry.transport.proxy)
            ∨ environment.any (fun entry => transportProxyRequested entry.transport.proxy) then
          .error Error.Code.invalidConfiguration
        else .ok { apiUrl, environment, context } : Except ErrorCode ResolvedConfig) =
        surroundings.resolveSelected file apiUrlExplicit context := by
    unfold Surroundings.resolveSelected
    dsimp only
    split
    · rfl
    · rfl
  unfold Surroundings.resolveConfigSelection requestedContext
  by_cases unnamed : contextName = ""
  · rw [if_pos unnamed, if_pos unnamed]
    exact rest none
  · rw [if_neg unnamed, if_neg unnamed]
    cases selectContext file apiUrlExplicit contextName with
    | error errorCode => rfl
    | ok context => exact rest (some context)

/-- Everything but the choice of the context reads the file's environments only. -/
theorem resolveSelected_congr (surroundings : Surroundings) {first second : ConfigFile}
    (environments : first.environments = second.environments) (apiUrlExplicit : String) :
    surroundings.resolveSelected first apiUrlExplicit =
      surroundings.resolveSelected second apiUrlExplicit := by
  funext context
  unfold Surroundings.resolveSelected
  rw [environments]

theorem resolveConfigSelection_perm (surroundings : Surroundings) (file : ConfigFile)
    {contexts : List ConfigContext} (perm : contexts.Perm file.contexts)
    (apiUrlExplicit contextName : String) :
    surroundings.resolveConfigSelection { file with contexts := contexts } apiUrlExplicit
        contextName =
      surroundings.resolveConfigSelection file apiUrlExplicit contextName := by
  have rest : surroundings.resolveSelected { file with contexts := contexts } apiUrlExplicit =
      surroundings.resolveSelected file apiUrlExplicit :=
    resolveSelected_congr surroundings rfl apiUrlExplicit
  rw [resolveConfigSelection_eq, resolveConfigSelection_eq, rest]
  rw [requestedContext, requestedContext, selectContext_perm perm]

theorem resolveSelected_ok {surroundings : Surroundings} {file : ConfigFile}
    {apiUrlExplicit : String} {context : Option ConfigContext} {resolved : ResolvedConfig}
    (found : surroundings.resolveSelected file apiUrlExplicit context = .ok resolved) :
    resolved.context = context ∧
      (context.any (·.apiUrl == "") = true → resolved.environment = none) := by
  unfold Surroundings.resolveSelected at found
  dsimp only at found
  generalize chosen : (if context.any (·.apiUrl == "") then none
    else file.environments.find? _) = environment at found
  split at found
  · cases found
  · cases mode : surroundings.resolveTunnelTransportMode environment context with
    | error errorCode =>
      rw [mode] at found
      cases found
    | ok value =>
      simp only [mode, bind, Except.bind] at found
      split at found
      · cases found
      · cases found
        refine ⟨rfl, fun unlinked => ?_⟩
        rw [← chosen, if_pos unlinked]

theorem requestedContext_some_iff {file : ConfigFile} {apiUrlExplicit contextName : String}
    {context : ConfigContext} :
    requestedContext file apiUrlExplicit contextName = .ok (some context) ↔
      contextName ≠ "" ∧ Selectable file apiUrlExplicit contextName context := by
  unfold requestedContext
  rw [← selectContext_ok_iff]
  by_cases unnamed : contextName = ""
  · simp [unnamed]
  · rw [if_neg unnamed]
    cases selectContext file apiUrlExplicit contextName with
    | error errorCode => simp [Functor.map, Except.map]
    | ok other => simp [Functor.map, Except.map, unnamed]

section Resolved

variable {surroundings : Surroundings} {file : ConfigFile} {apiUrlExplicit contextName : String}
  {resolved : ResolvedConfig} {context : ConfigContext}

theorem resolveConfigSelection_ok
    (found : surroundings.resolveConfigSelection file apiUrlExplicit contextName = .ok resolved)
    (selected : resolved.context = some context) :
    Selectable file apiUrlExplicit contextName context ∧
      (context.apiUrl = "" → resolved.environment = none) := by
  rw [resolveConfigSelection_eq] at found
  cases requested : requestedContext file apiUrlExplicit contextName with
  | error errorCode =>
    rw [requested] at found
    cases found
  | ok choice =>
    rw [requested] at found
    obtain ⟨same, unlinked⟩ := resolveSelected_ok found
    obtain rfl : choice = some context := same.symm.trans selected
    refine ⟨(requestedContext_some_iff.mp requested).2, fun noUrl => unlinked ?_⟩
    rw [Option.any_some, noUrl]
    rfl

theorem ResolvedConfig.settings_of_context {α : Type} (selected : resolved.context = some context)
    (alone : resolved.environment = none) (ofContext : ConfigContext → α)
    (ofEnvironment : ConfigEnvironment → α) (present : α → Bool) :
    resolved.settings ofContext ofEnvironment present =
      (some (ofContext context)).filter present := by
  rw [ResolvedConfig.settings, selected, alone]
  exact Option.or_none

theorem resolveTokenFromConfig_of_context
    (found : surroundings.resolveConfigSelection file apiUrlExplicit contextName = .ok resolved)
    (selected : resolved.context = some context) (alone : resolved.environment = none) :
    surroundings.resolveTokenFromConfig file apiUrlExplicit contextName =
      resolveTokenFromAuth context.auth := by
  simp only [Surroundings.resolveTokenFromConfig, found, bind, Except.bind, selected, alone,
    Option.elim_some, Option.elim_none]
  cases resolveTokenFromAuth context.auth with
  | error errorCode => rfl
  | ok token =>
    cases token with
    | none | some token => rfl

end Resolved

/-- The outcome is that of every order of the contexts; a selected context is the only one it
could have been; and where it has no API URL no environment takes part, so that the token, the
client certificate and the TLS options are those of the context. -/
theorem resolveConfigSelection_unambiguous (surroundings : Surroundings) (file : ConfigFile)
    (apiUrlExplicit contextName : String) :
    (∀ contexts : List ConfigContext, contexts.Perm file.contexts →
      surroundings.resolveConfigSelection { file with contexts := contexts } apiUrlExplicit
          contextName =
        surroundings.resolveConfigSelection file apiUrlExplicit contextName) ∧
    ∀ resolved context,
      surroundings.resolveConfigSelection file apiUrlExplicit contextName = .ok resolved →
      resolved.context = some context →
      Selectable file apiUrlExplicit contextName context ∧
      (context.apiUrl = "" →
        resolved.environment = none ∧
        surroundings.resolveTokenFromConfig file apiUrlExplicit contextName =
          resolveTokenFromAuth context.auth ∧
        surroundings.resolveMtlsFromConfig file apiUrlExplicit contextName =
          .ok ((some context.auth.mtls).filter (·.present)) ∧
        surroundings.resolveTlsFromConfig file apiUrlExplicit contextName =
          .ok ((some context.transport.tls).filter (·.present))) := by
  refine ⟨fun contexts perm => resolveConfigSelection_perm surroundings file perm _ _, ?_⟩
  intro resolved context found selected
  obtain ⟨selectable, unlinked⟩ := resolveConfigSelection_ok found selected
  refine ⟨selectable, fun noUrl => ?_⟩
  have alone := unlinked noUrl
  refine ⟨alone, resolveTokenFromConfig_of_context found selected alone, ?_, ?_⟩
  · rw [Surroundings.resolveMtlsFromConfig, found, Except.map,
      ResolvedConfig.settings_of_context selected alone]
  · rw [Surroundings.resolveTlsFromConfig, found, Except.map,
      ResolvedConfig.settings_of_context selected alone]

/-- Two contexts of one name, of which the API URL that is asked for leaves the one without a
URL; the environment of the URL is not used. -/
def sharedName : ConfigFile where
  environments := [{ apiUrl := "https://b" }]
  contexts := [{ name := "ci", apiUrl := "https://a" }, { name := "ci" }]

theorem resolveSelected_sharedName :
    ({} : Surroundings).resolveSelected sharedName "https://b" (some { name := "ci" }) =
      .ok { apiUrl := "https://b", environment := none, context := some { name := "ci" } } := by
  have lower : "auto".map Char.toLower = "auto" := by
    apply String.toList_injective
    rw [String.toList_map]
    decide
  have mode : ({} : Surroundings).resolveTunnelTransportMode none (some { name := "ci" }) =
      .ok "tls" := by
    simp [Surroundings.resolveTunnelTransportMode, Surroundings.getenvTrim, modeOr,
      transportModeFromConfig, lower, bind, Except.bind]
  simp [Surroundings.resolveSelected, mode, bind, Except.bind, transportProxyRequested]

theorem sharedName_unambiguous :
    ({} : Surroundings).resolveConfigSelection
        { sharedName with contexts := [{ name := "ci" }, { name := "ci", apiUrl := "https://a" }] }
        "https://b" "ci" =
      .ok { apiUrl := "https://b", environment := none, context := some { name := "ci" } } := by
  rw [(resolveConfigSelection_unambiguous {} sharedName "https://b" "ci").1 _ (.swap _ _ _)]
  rw [resolveConfigSelection_eq]
  exact resolveSelected_sharedName

end Rstream.IoRstrm
