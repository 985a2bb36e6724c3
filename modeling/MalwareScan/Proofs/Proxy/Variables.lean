import MalwareScan.Client.Settings
import MalwareScan.Settings.Variables
import Mathlib.Algebra.Order.BigOperators.Group.List
import Mathlib.Algebra.Order.Group.Nat

/-!
# Two readings of the proxy variables

A client learns its proxies from the variables of the process in one of two ways: it reads them
itself (`ClientSettings.new`), or it is made from settings that they overrule
(`Settings.mergeVariables`). The second way also hears a variable in lower case where the one in
upper case is not set, the first way does not.

Which selections choose the same proxy for all hosts is said by `Selection.urlFor_agree_iff`, and by
the main theorem `variables_read_alike_iff` for the variables themselves.
-/

namespace MalwareScan

namespace Proxy

/-! ## What a selection chooses -/

/-- Where no list is set there are no exceptions. -/
theorem exceptionsOf_none : exceptionsOf none = [] := by decide

/-- Every entry of a list of hosts covers the host that it is. -/
theorem covers_self (entry : String) : covers entry entry = true := by
  simp [covers]

/-- A star covers all hosts. -/
theorem covers_star (host : String) : covers "*" host = true := by
  simp [covers]

/-- A host without a dot that is longer than an entry is covered by a star at most. -/
theorem eq_star_of_covers {entry host : String} (hdot : '.' ∉ host.toList)
    (hlong : entry.toList.length < host.toList.length) (h : covers entry host = true) :
    entry = "*" := by
  unfold covers at h
  rw [Bool.or_eq_true, Bool.or_eq_true, beq_iff_eq, beq_iff_eq] at h
  obtain (hstar | rfl) | hend := h
  · exact hstar
  · exact absurd hlong (Nat.lt_irrefl _)
  · split at hend
    · exact absurd ((List.isSuffixOf_iff_suffix.1 hend).subset List.mem_cons_self) hdot
    · cases hend

/-- A list without a star leaves out some host. -/
theorem exists_not_covered {entries : List String} (h : "*" ∉ entries) :
    ∃ host, ∀ entry ∈ entries, covers entry host = false := by
  refine ⟨String.ofList
    (List.replicate ((entries.map fun entry => entry.toList.length).sum + 1) 'a'), ?_⟩
  intro entry hmem
  have hlength : entry.toList.length ≤ (entries.map fun entry => entry.toList.length).sum :=
    List.le_sum_of_mem (List.mem_map_of_mem hmem)
  rw [Bool.eq_false_iff]
  intro hcovers
  have hstar := eq_star_of_covers (by simp) (by simpa using Nat.lt_succ_of_le hlength) hcovers
  exact h (hstar ▸ hmem)

namespace Selection

variable {selection first second : Selection} {host : String}

/-- The proxy for the hosts that are no exceptions. -/
def chosen (selection : Selection) : Option String :=
  selection.https.or selection.http

/-- No proxy is ever used: there is none, or all hosts are exceptions. -/
def IsDirect (selection : Selection) : Prop :=
  selection.chosen = none ∨ "*" ∈ selection.exceptions

/-- A host that is no exception is reached by the chosen proxy. -/
theorem urlFor_eq (selection : Selection) (host : String) :
    selection.urlFor host = if selection.bypasses host then none else selection.chosen := by
  unfold urlFor chosen
  cases selection.https <;> rfl

/-- A selection without exceptions uses its proxy for all hosts. -/
theorem bypasses_of_nil (h : selection.exceptions = []) : selection.bypasses host = false := by
  simp [bypasses, h]

/-- A selection is direct exactly if it has a proxy for no host. -/
theorem isDirect_iff : selection.IsDirect ↔ ∀ host, selection.urlFor host = none := by
  constructor
  · rintro (hnone | hstar) host
    · rw [urlFor_eq, hnone, ite_self]
    · have hbypasses : selection.bypasses host = true :=
        List.any_eq_true.2 ⟨"*", hstar, covers_star host⟩
      rw [urlFor_eq, if_pos hbypasses]
  · intro h
    by_cases hstar : "*" ∈ selection.exceptions
    · exact .inr hstar
    · obtain ⟨host, hhost⟩ := exists_not_covered hstar
      have hbypasses : selection.bypasses host = false := by simpa [bypasses] using hhost
      have hnone := h host
      rw [urlFor_eq, hbypasses] at hnone
      exact .inl hnone

/-- Two selections, of which the first has no exceptions or those of the second, choose the same for
all hosts exactly if both are direct, or if they have the same proxy and the same exceptions. -/
theorem urlFor_agree_iff (h : first.exceptions = [] ∨ first.exceptions = second.exceptions) :
    (∀ host, first.urlFor host = second.urlFor host) ↔
      (first.IsDirect ∧ second.IsDirect) ∨
        (first.chosen = second.chosen ∧ first.exceptions = second.exceptions) := by
  constructor
  · intro hsame
    by_cases hdirect : first.IsDirect
    · refine .inl ⟨hdirect, isDirect_iff.2 fun host => ?_⟩
      rw [← hsame, isDirect_iff.1 hdirect]
    · obtain ⟨hchosen, hstar⟩ := not_or.1 hdirect
      have hexceptions : first.exceptions = second.exceptions := by
        refine h.elim (fun hnil => ?_) id
        -- An exception of the second one alone would be a host for which the two differ.
        cases hsecond : second.exceptions with
        | nil => exact hnil
        | cons entry entries =>
            have hentry : second.bypasses entry = true := by
              simp [bypasses, hsecond, covers_self]
            have hdiffer := hsame entry
            rw [urlFor_eq, urlFor_eq, bypasses_of_nil hnil, hentry] at hdiffer
            exact absurd hdiffer hchosen
      obtain ⟨host, hhost⟩ := exists_not_covered hstar
      have hfirst : first.bypasses host = false := by simpa [bypasses] using hhost
      have hsecond : second.bypasses host = false := by
        rw [bypasses, ← hexceptions]
        exact hfirst
      have heq := hsame host
      rw [urlFor_eq, urlFor_eq, hfirst, hsecond] at heq
      exact .inr ⟨heq, hexceptions⟩
  · rintro (⟨hfirst, hsecond⟩ | ⟨hchosen, hexceptions⟩) host
    · rw [isDirect_iff.1 hfirst, isDirect_iff.1 hsecond]
    · rw [urlFor_eq, urlFor_eq, hchosen, bypasses, bypasses, hexceptions]

end Selection

/-! ## What the variables state -/

/-- The variable states a proxy: it is set, and not to blanks. -/
def States (env : Environment) (name url : String) : Prop :=
  env name = some url ∧ Text.isBlankText url = false

/-- Only the variable in lower case states a proxy. The one in upper case is not set, not even to
nothing. -/
def StatesLower (env : Environment) (upper lower url : String) : Prop :=
  env upper = none ∧ States env lower url

/-- The variables in lower case do not matter for the proxy: a secure one that they state is in use
anyway, and a plain one is not used for the sake of a secure one. -/
structure SameProxy (env : Environment) : Prop where
  secure : ∀ url, StatesLower env "HTTPS_PROXY" "https_proxy" url → env "HTTP_PROXY" = some url
  plain : ∀ url, StatesLower env "HTTP_PROXY" "http_proxy" url → ∃ url, States env "HTTPS_PROXY" url

/-- The variables in lower case do not matter for the exceptions. -/
def SameExceptions (env : Environment) : Prop :=
  env "NO_PROXY" = none → exceptionsOf (env "no_proxy") = []

/-- Both ways of reading the variables lead to the same proxies: all hosts are exceptions; or the
variables in upper case state no proxy, and those in lower case no other one or make all hosts
exceptions; or the variables in lower case do not matter at all. -/
inductive ReadAlike (env : Environment) : Prop where
  | everywhere (hstar : "*" ∈ exceptionsOf (env "NO_PROXY"))
  | unused (hhttps : ∀ url, ¬ States env "HTTPS_PROXY" url)
      (hhttp : ∀ url, ¬ States env "HTTP_PROXY" url)
      (h : SameProxy env ∨ "*" ∈ exceptionsOf (Settings.either env "NO_PROXY" "no_proxy"))
  | same (hproxy : SameProxy env) (hexceptions : SameExceptions env)

section

open Settings (either)

variable {env : Environment} {upper lower name url : String}

/-- What is left of a variable without blanks is the proxy that it states. -/
theorem filter_eq_some_iff :
    ((env name).filter fun s => !Text.isBlankText s) = some url ↔ States env name url := by
  simp [Option.filter_eq_some_iff, States]

/-- What is left of a variable without blanks is nothing exactly if it states no proxy. -/
theorem filter_eq_none_iff :
    ((env name).filter fun s => !Text.isBlankText s) = none ↔ ∀ url, ¬ States env name url := by
  simp only [← filter_eq_some_iff, Option.eq_none_iff_forall_ne_some]

/-- What is left of the first of two variables that is set, if only the one in lower case states a
proxy. -/
theorem filter_either_of_statesLower (h : StatesLower env upper lower url) :
    ((either env upper lower).filter fun s => !Text.isBlankText s) = some url := by
  rw [either, h.1, Option.none_or]
  exact filter_eq_some_iff.2 h.2

/-- A variable in lower case makes no difference exactly if it alone states no proxy. -/
theorem filter_either_eq_iff :
    ((env upper).filter fun s => !Text.isBlankText s) =
        (either env upper lower).filter (fun s => !Text.isBlankText s) ↔
      ∀ url, ¬ StatesLower env upper lower url := by
  cases hupper : env upper with
  | some text => simp [either, hupper, StatesLower]
  | none =>
      simp only [either, hupper, Option.none_or, Option.filter_none, StatesLower, true_and]
      rw [eq_comm, filter_eq_none_iff]

/-- The settings that only the variables overrule name the proxies of the first variables that are
set. -/
theorem proxies_mergeVariables (env : Environment) :
    (Settings.mergeVariables {} env).client.proxies =
      .new (either env "HTTP_PROXY" "http_proxy") (either env "HTTPS_PROXY" "https_proxy")
        (either env "NO_PROXY" "no_proxy") (env "PROXY_USER") (env "PROXY_PASS") := by
  simp [Settings.mergeVariables, Settings.client, ProxySettings.selection]

/-- Both readings choose the same proxy exactly if the variables in lower case do not matter for
it. -/
theorem chosen_eq_iff :
    (Selection.ofEnvironment env).chosen =
        (Settings.mergeVariables {} env).client.proxies.chosen ↔ SameProxy env := by
  rw [proxies_mergeVariables]
  simp only [Selection.ofEnvironment, Selection.chosen, Selection.new]
  by_cases hsecure : ∃ url, StatesLower env "HTTPS_PROXY" "https_proxy" url
  · -- The secure proxy in lower case is chosen by one reading, so the other has to choose it too.
    obtain ⟨url, hlower⟩ := hsecure
    rw [hlower.1, filter_either_of_statesLower hlower, Option.filter_none, Option.none_or,
      Option.some_or, filter_eq_some_iff]
    constructor
    · intro hhttp
      refine ⟨fun other hother => ?_, fun other hother => ?_⟩
      · have hsame : some other = some url := hother.2.1.symm.trans hlower.2.1
        rw [hhttp.1, hsame]
      · have hunset := hother.1
        rw [hhttp.1] at hunset
        cases hunset
    · intro hsame
      exact ⟨hsame.secure url hlower, hlower.2.2⟩
  · rw [not_exists] at hsecure
    rw [← filter_either_eq_iff.2 hsecure]
    cases hhttps : (env "HTTPS_PROXY").filter fun s => !Text.isBlankText s with
    | some url =>
        refine ⟨fun _ => ⟨fun url hurl => absurd hurl (hsecure url), fun _ _ => ?_⟩, fun _ => rfl⟩
        exact ⟨url, filter_eq_some_iff.1 hhttps⟩
    | none =>
        rw [Option.none_or, Option.none_or, filter_either_eq_iff]
        constructor
        · intro hplain
          exact ⟨fun url hurl => absurd hurl (hsecure url),
            fun url hurl => absurd hurl (hplain url)⟩
        · intro hsame url hurl
          obtain ⟨secure, hstates⟩ := hsame.plain url hurl
          exact filter_eq_none_iff.1 hhttps secure hstates

/-- Both readings have the same exceptions exactly if the variables in lower case do not matter for
them. -/
theorem exceptions_eq_iff :
    (Selection.ofEnvironment env).exceptions =
        (Settings.mergeVariables {} env).client.proxies.exceptions ↔ SameExceptions env := by
  rw [proxies_mergeVariables]
  simp only [Selection.ofEnvironment, Selection.new, SameExceptions]
  cases hupper : env "NO_PROXY" with
  | some list => simp [either, hupper]
  | none =>
      rw [either, hupper, Option.none_or, exceptionsOf_none]
      exact ⟨fun h _ => h.symm, fun h => (h rfl).symm⟩

/-- The variables let both readings lead to the same proxies exactly if both choose none, or if they
choose the same with the same exceptions. -/
theorem readAlike_iff :
    ReadAlike env ↔
      ((Selection.ofEnvironment env).IsDirect ∧
        (Settings.mergeVariables {} env).client.proxies.IsDirect) ∨
      ((Selection.ofEnvironment env).chosen =
          (Settings.mergeVariables {} env).client.proxies.chosen ∧
        (Selection.ofEnvironment env).exceptions =
          (Settings.mergeVariables {} env).client.proxies.exceptions) := by
  rw [chosen_eq_iff, exceptions_eq_iff]
  have hunused : (Selection.ofEnvironment env).chosen = none ↔
      (∀ url, ¬ States env "HTTPS_PROXY" url) ∧ ∀ url, ¬ States env "HTTP_PROXY" url := by
    rw [← filter_eq_none_iff, ← filter_eq_none_iff]
    exact Option.or_eq_none_iff
  have hmerged : (Settings.mergeVariables {} env).client.proxies.exceptions =
      exceptionsOf (either env "NO_PROXY" "no_proxy") := by
    rw [proxies_mergeVariables]
    rfl
  constructor
  · rintro (hstar | ⟨hhttps, hhttp, hproxy | hstar⟩ | ⟨hproxy, hexceptions⟩)
    · refine .inl ⟨.inr hstar, .inr ?_⟩
      cases hupper : env "NO_PROXY" with
      | none =>
          rw [hupper, exceptionsOf_none] at hstar
          cases hstar
      | some list =>
          rw [hupper] at hstar
          rwa [hmerged, either, hupper, Option.some_or]
    · have hnone := hunused.2 ⟨hhttps, hhttp⟩
      exact .inl ⟨.inl hnone, .inl ((chosen_eq_iff.2 hproxy).symm.trans hnone)⟩
    · exact .inl ⟨.inl (hunused.2 ⟨hhttps, hhttp⟩), .inr (hmerged ▸ hstar)⟩
    · exact .inr ⟨hproxy, hexceptions⟩
  · rintro (⟨hnone | hstar, hdirect⟩ | ⟨hproxy, hexceptions⟩)
    · obtain ⟨hhttps, hhttp⟩ := hunused.1 hnone
      refine .unused hhttps hhttp (hdirect.imp (fun hmergedNone => ?_) fun hstar => hmerged ▸ hstar)
      exact chosen_eq_iff.1 (hnone.trans hmergedNone.symm)
    · exact .everywhere hstar
    · exact .same hproxy hexceptions

end

/-! ## The main theorem -/

/-- For all variables of a process: a client that reads the proxies itself and one that is made
from settings which they overrule have the same login. They choose the same proxy for all hosts
exactly if `ReadAlike` holds of the variables. Then they also reach all hosts in the same way. -/
theorem variables_read_alike_iff (env : Environment) (region apiKey : String) :
    (ClientSettings.new env region apiKey).proxies.login =
      (Settings.mergeVariables {} env).client.proxies.login ∧
    ((∀ host, (ClientSettings.new env region apiKey).proxies.urlFor host =
      (Settings.mergeVariables {} env).client.proxies.urlFor host) ↔ ReadAlike env) ∧
    (ReadAlike env → ∀ host, (ClientSettings.new env region apiKey).proxies.endpointFor host =
      (Settings.mergeVariables {} env).client.proxies.endpointFor host) := by
  have hexceptions : (Selection.ofEnvironment env).exceptions = [] ∨
      (Selection.ofEnvironment env).exceptions =
        (Settings.mergeVariables {} env).client.proxies.exceptions := by
    cases hupper : env "NO_PROXY" with
    | none =>
        rw [Selection.ofEnvironment, hupper]
        exact .inl exceptionsOf_none
    | some list =>
        refine .inr (exceptions_eq_iff.2 fun hunset => ?_)
        rw [hupper] at hunset
        cases hunset
  have hlogin : (ClientSettings.new env region apiKey).proxies.login =
      (Settings.mergeVariables {} env).client.proxies.login := by
    rw [proxies_mergeVariables]
    rfl
  have hurls : (∀ host, (ClientSettings.new env region apiKey).proxies.urlFor host =
      (Settings.mergeVariables {} env).client.proxies.urlFor host) ↔ ReadAlike env := by
    rw [readAlike_iff]
    exact Selection.urlFor_agree_iff hexceptions
  refine ⟨hlogin, hurls, fun halike host => ?_⟩
  rw [Selection.endpointFor, Selection.endpointFor, hurls.2 halike host, hlogin]

/-- Variables that state a secure proxy, and a plain one in lower case. -/
def mixedCase : Environment := fun name =>
  if name = "HTTPS_PROXY" then some "https://secure:1"
  else if name = "http_proxy" then some "http://plain:2"
  else none

/-- Beside a secure proxy a plain one in lower case does not matter. -/
theorem variables_read_alike_mixedCase :
    (∀ host, (ClientSettings.new mixedCase "r" "k").proxies.urlFor host =
      (Settings.mergeVariables {} mixedCase).client.proxies.urlFor host) ∧
    (ClientSettings.new mixedCase "r" "k").proxies.urlFor "h" = some "https://secure:1" := by
  have hproxy : SameProxy mixedCase :=
    ⟨fun url h => (by cases h.1), fun url _ => ⟨"https://secure:1", by decide, by decide⟩⟩
  have halike : ReadAlike mixedCase := .same hproxy fun _ => exceptionsOf_none
  exact ⟨(variables_read_alike_iff mixedCase "r" "k").2.1.2 halike, by decide⟩

/-- Variables that state a proxy in lower case only. -/
def lowerCase : Environment := fun name =>
  if name = "http_proxy" then some "http://p:1" else none

/-- A proxy in lower case is used by a client that is made from settings. A client that reads the
variables itself connects directly. -/
theorem variables_read_apart :
    (ClientSettings.new lowerCase "r" "k").proxies.urlFor "h" = none ∧
      (Settings.mergeVariables {} lowerCase).client.proxies.urlFor "h" = some "http://p:1" := by
  decide

end Proxy

end MalwareScan
