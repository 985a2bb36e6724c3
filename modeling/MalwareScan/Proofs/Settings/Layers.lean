import MalwareScan.CommandLine.Arguments
import MalwareScan.Proofs.Text.Numerals
import MalwareScan.Settings.Variables

/-!
# Settings in three layers

The arguments overrule the variables, and the variables overrule the settings that are there
already. `singles` is a table of the settings that have one value, with the variables and the
argument that may state it; `turnedOn` and `turnedOff` are tables of the settings that are on or
off. The main theorem, `settings_are_layered`, says that the settings of a run are exactly those
that the tables describe, and that what is said of one setting reaches no other one.
-/

namespace MalwareScan.Settings

open CommandLine (Arguments)
open Proxy (Environment)

/-! ## What the variables say -/

/-- Of some variables, the first one that is set is set to the text. -/
inductive Heard (env : Environment) : List String → String → Prop where
  | here {name text : String} (names : List String) (hset : env name = some text) :
      Heard env (name :: names) text
  | behind {name text : String} {names : List String} (hunset : env name = none)
      (h : Heard env names text) : Heard env (name :: names) text

variable {env other : Environment} {arguments : Arguments} {names : List String} {text : String}

/-- What is heard of variables is the text that a search for the first one finds. -/
theorem heard_iff : Heard env names text ↔ names.findSome? env = some text := by
  constructor
  · intro h
    induction h with
    | here names hset => rw [List.findSome?_cons, hset]
    | behind hunset _ ih => rw [List.findSome?_cons, hunset, ih]
  · intro h
    induction names with
    | nil => cases h
    | cons name names ih =>
        rw [List.findSome?_cons] at h
        cases hname : env name with
        | none => exact .behind hname (ih (by rwa [hname] at h))
        | some found =>
            rw [hname] at h
            exact .here names (hname.trans h)

/-- What is heard of variables depends on no others. -/
theorem Heard.congr (hsame : ∀ name ∈ names, env name = other name) (h : Heard env names text) :
    Heard other names text := by
  induction h with
  | here names hset => exact .here names ((hsame _ (List.mem_cons_self ..)).symm.trans hset)
  | behind hunset _ ih =>
      obtain ⟨hname, hnames⟩ := List.forall_mem_cons.1 hsame
      exact .behind (hname.symm.trans hunset) (ih hnames)

/-- Of one variable its value is heard. -/
theorem findSome?_one (env : Environment) (name : String) : [name].findSome? env = env name := by
  cases hname : env name <;> simp [hname]

/-- Of two variables that of the first one is heard if it is set. -/
theorem findSome?_two (env : Environment) (upper lower : String) :
    [upper, lower].findSome? env = either env upper lower := by
  rw [List.findSome?_cons, findSome?_one, either]
  cases env upper <;> rfl

/-! ## Settings with one value -/

/-- A setting with one value: where it stands, the names of the variables that may state it, of
which the first one that is set counts, the value that a text of them states, and what the
arguments say. -/
structure Single where
  Value : Type
  get : Settings → Value
  names : List String
  Reads : String → Value → Prop
  given : Arguments → Option Value
  unique : ∀ {text value value'}, Reads text value → Reads text value' → value = value'

/-- A setting whose value was `before` is settled on a value: on the one that the arguments give, or
else on the one that the variables state, or else on its own. -/
inductive Single.Settles (single : Single) (arguments : Arguments) (env : Environment)
    (before : single.Value) : single.Value → Prop where
  | given {value : single.Value} (hgiven : single.given arguments = some value) :
      Settles single arguments env before value
  | stated {text : String} {value : single.Value} (hnot : single.given arguments = none)
      (hheard : Heard env single.names text) (hreads : single.Reads text value) :
      Settles single arguments env before value
  | kept (hnot : single.given arguments = none)
      (hsilent : ∀ text value, Heard env single.names text → ¬ single.Reads text value) :
      Settles single arguments env before before

namespace Single

/-- A setting is settled on one value only. -/
theorem Settles.eq {single : Single} {before value value' : single.Value}
    (h : single.Settles arguments env before value)
    (h' : single.Settles arguments env before value') : value = value' := by
  cases h with
  | given hgiven =>
      cases h' with
      | given hgiven' => exact Option.some.inj (hgiven.symm.trans hgiven')
      | stated hnot | kept hnot =>
          rw [hnot] at hgiven
          cases hgiven
  | stated hnot hheard hreads =>
      cases h' with
      | given hgiven =>
          rw [hnot] at hgiven
          cases hgiven
      | stated _ hheard' hreads' =>
          have htext := Option.some.inj ((heard_iff.1 hheard).symm.trans (heard_iff.1 hheard'))
          exact single.unique hreads (htext ▸ hreads')
      | kept _ hsilent => exact absurd hreads (hsilent _ _ hheard)
  | kept hnot hsilent =>
      cases h' with
      | given hgiven =>
          rw [hnot] at hgiven
          cases hgiven
      | stated _ hheard hreads => exact absurd hreads (hsilent _ _ hheard)
      | kept => rfl

/-- What it is settled on depends on no variables but its own. -/
theorem Settles.congr {single : Single} {before value : single.Value}
    (hsame : ∀ name ∈ single.names, env name = other name)
    (h : single.Settles arguments env before value) :
    single.Settles arguments other before value := by
  cases h with
  | given hgiven => exact .given hgiven
  | stated hnot hheard hreads => exact .stated hnot (hheard.congr hsame) hreads
  | kept hnot hsilent =>
      exact .kept hnot fun text value hheard =>
        hsilent text value (hheard.congr fun name hname => (hsame name hname).symm)

/-- A setting is settled by a reader of what its variables state. -/
theorem settles_getD (single : Single) (arguments : Arguments) (env : Environment)
    {read : String → Option single.Value}
    (hread : ∀ text value, read text = some value ↔ single.Reads text value)
    (before : single.Value) :
    single.Settles arguments env before
      ((single.given arguments).getD (((single.names.findSome? env).bind read).getD before)) := by
  cases hgiven : single.given arguments with
  | some value => exact .given hgiven
  | none =>
      cases hstated : (single.names.findSome? env).bind read with
      | some value =>
          obtain ⟨text, hheard, hvalue⟩ := Option.bind_eq_some_iff.1 hstated
          exact .stated hgiven (heard_iff.2 hheard) ((hread text value).1 hvalue)
      | none =>
          refine .kept hgiven fun text value hheard hreads => ?_
          rw [heard_iff.1 hheard, Option.bind_some, (hread text value).2 hreads] at hstated
          cases hstated

/-- A text. -/
def ofText (get : Settings → String) (names : List String)
    (given : Arguments → Option String) : Single where
  Value := String
  get := get
  names := names
  Reads text value := value = text
  given := given
  unique h h' := h.trans h'.symm

/-- A text that may be missing. Neither the variables nor the arguments remove it. -/
def ofOptional (get : Settings → Option String) (names : List String)
    (given : Arguments → Option String) : Single where
  Value := Option String
  get := get
  names := names
  Reads text value := value = some text
  given arguments := (given arguments).map some
  unique h h' := h.trans h'.symm

/-- A number. A variable states it if its text without the blanks around it denotes it, without a
minus sign in front. -/
def ofNumber (get : Settings → UInt64) (names : List String)
    (given : Arguments → Option UInt64) : Single where
  Value := UInt64
  get := get
  names := names
  Reads text value :=
    (∀ digits, (Text.trim text).toList ≠ '-' :: digits) ∧
      Text.Denotes (Text.trim text).toList value.toNat
  given := given
  unique h h' := UInt64.toNat_inj.1 (Int.natCast_inj.1 (h.2.unique h'.2))

/-- A setting that neither the variables nor the arguments can state. -/
def fixed {α : Type} (get : Settings → α) : Single where
  Value := α
  get := get
  names := []
  Reads _ _ := False
  given _ := none
  unique h := h.elim

/-- A text is settled by its argument, its variables and itself, in this order. -/
theorem settles_ofText (get : Settings → String) (given : Arguments → Option String)
    {before after : String}
    (h : after = (given arguments).getD ((names.findSome? env).getD before)) :
    (ofText get names given).Settles arguments env before after := by
  have hread (text value : String) : some text = some value ↔ value = text := by
    rw [Option.some.injEq, eq_comm]
  have hsettles := (ofText get names given).settles_getD arguments env hread before
  have hkept : (names.findSome? env).bind some = names.findSome? env := by
    cases names.findSome? env <;> rfl
  rw [h, ← hkept]
  exact hsettles

/-- So is a text that may be missing. -/
theorem settles_ofOptional (get : Settings → Option String) (given : Arguments → Option String)
    {before after : Option String}
    (h : after = (given arguments).or ((names.findSome? env).or before)) :
    (ofOptional get names given).Settles arguments env before after := by
  have hread (text : String) (value : Option String) :
      some (some text) = some value ↔ value = some text := by
    rw [Option.some.injEq, eq_comm]
  have hsettles := (ofOptional get names given).settles_getD arguments env hread before
  have hor (first second : Option String) : first.or second = (first.map some).getD second := by
    cases first <;> rfl
  have hmap : (names.findSome? env).map some =
      (names.findSome? env).bind fun text => some (some text) := by
    cases names.findSome? env <;> rfl
  rw [h, hor, hor, hmap]
  exact hsettles

/-- So is a number. -/
theorem settles_ofNumber (get : Settings → UInt64) (given : Arguments → Option UInt64)
    {before after : UInt64}
    (h : after = (given arguments).getD (((names.findSome? env).bind timeoutOf?).getD before)) :
    (ofNumber get names given).Settles arguments env before after := by
  have hsettles := (ofNumber get names given).settles_getD arguments env
    (fun text value => Text.uint64?_eq_some_iff) before
  rw [h]
  exact hsettles

/-- Any other setting keeps its value. -/
theorem settles_fixed {α : Type} (get : Settings → α) (before : α) :
    (fixed get).Settles arguments env before before :=
  .kept rfl fun _ _ _ h => h

end Single

/-- The settings with one value. -/
def singles : List Single := [
  .ofText (·.service.region) ["AMSCAN_REGION"] (·.region),
  .ofOptional (·.service.host) ["AMSCAN_HOST"] (·.host),
  .ofOptional (·.service.apiKey) ["AMSCAN_API_KEY"] (·.apiKey),
  .fixed (·.service.tokenKind),
  .fixed (·.service.appName),
  .ofNumber (·.service.timeoutSeconds) ["AMSCAN_TIMEOUT"] (·.timeout),
  .fixed (·.service.caCertPath),
  .ofOptional (·.proxy.httpProxy) ["HTTP_PROXY", "http_proxy"] fun _ => none,
  .ofOptional (·.proxy.httpsProxy) ["HTTPS_PROXY", "https_proxy"] fun _ => none,
  .ofOptional (·.proxy.noProxy) ["NO_PROXY", "no_proxy"] fun _ => none,
  .ofOptional (·.proxy.user) ["PROXY_USER"] fun _ => none,
  .ofOptional (·.proxy.password) ["PROXY_PASS"] fun _ => none,
  .ofNumber (·.scan.maxConcurrentScans) [] (·.concurrency),
  .ofText (·.logging.level) ["AMSCAN_LOG_LEVEL"] (·.logLevel),
  .ofText (·.logging.format) ["AMSCAN_LOG_FORMAT"] (·.logFormat)]

/-! ## Settings that are on or off -/

/-- A setting that is on or off, and the switch of the arguments for it. -/
structure Flag where
  get : Settings → Bool
  given : Arguments → Bool

/-- The settings that a switch turns on. -/
def turnedOn : List Flag := [
  ⟨(·.scan.pml), (·.pml)⟩,
  ⟨(·.scan.feedback), (·.feedback)⟩,
  ⟨(·.scan.verbose), (·.verbose)⟩,
  ⟨(·.scan.activeContent), (·.activeContent)⟩]

/-- The settings that a switch turns off. -/
def turnedOff : List Flag := [
  ⟨(·.scan.digest), (·.noDigest)⟩,
  ⟨(·.service.useTls), (·.noTls)⟩]

/-! ## All settings -/

/-- The settings `after` come of `base` by what the variables and the arguments say. -/
structure Layered (arguments : Arguments) (env : Environment) (base after : Settings) : Prop where
  single : ∀ single ∈ singles, single.Settles arguments env (single.get base) (single.get after)
  tags : after.scan.tags = base.scan.tags ++ arguments.tags
  on : ∀ flag ∈ turnedOn,
    (flag.get after = true ↔ flag.get base = true ∨ flag.given arguments = true)
  off : ∀ flag ∈ turnedOff,
    (flag.get after = true ↔ flag.get base = true ∧ flag.given arguments = false)

variable {base after after' : Settings}

/-- Settings that agree in all tables and in the tags are the same. -/
theorem eq_of_tables (hsingle : ∀ single ∈ singles, single.get after = single.get after')
    (htags : after.scan.tags = after'.scan.tags)
    (hon : ∀ flag ∈ turnedOn, flag.get after = flag.get after')
    (hoff : ∀ flag ∈ turnedOff, flag.get after = flag.get after') : after = after' := by
  obtain ⟨⟨⟩, ⟨⟩, ⟨⟩, ⟨⟩⟩ := after
  obtain ⟨⟨⟩, ⟨⟩, ⟨⟩, ⟨⟩⟩ := after'
  simp only [singles, turnedOn, turnedOff, List.forall_mem_cons, Single.ofText, Single.ofOptional,
    Single.ofNumber, Single.fixed] at hsingle htags hon hoff
  simp [hsingle, htags, hon, hoff]

/-- Nothing else comes of the base. -/
theorem Layered.eq (h : Layered arguments env base after) (h' : Layered arguments env base after') :
    after = after' := by
  refine eq_of_tables (fun single hmem => (h.single single hmem).eq (h'.single single hmem))
    (h.tags.trans h'.tags.symm) (fun flag hmem => ?_) fun flag hmem => ?_
  · rw [Bool.eq_iff_iff, h.on flag hmem, h'.on flag hmem]
  · rw [Bool.eq_iff_iff, h.off flag hmem, h'.off flag hmem]

/-- The settings of a run come of those that are there already. -/
theorem layered_overrule (arguments : Arguments) (env : Environment) (base : Settings) :
    Layered arguments env base (arguments.overrule (base.mergeVariables env)) where
  single := by
    simp only [singles, List.forall_mem_cons]
    refine ⟨?region, ?host, ?apiKey, ?tokenKind, ?appName, ?timeout, ?caCertPath, ?httpProxy,
      ?httpsProxy, ?noProxy, ?user, ?password, ?maxConcurrentScans, ?level, ?format,
      List.forall_mem_nil _⟩
    case region | level | format => exact Single.settles_ofText _ _ (by rw [findSome?_one]; rfl)
    case host | apiKey | user | password =>
      exact Single.settles_ofOptional _ _ (by rw [findSome?_one]; rfl)
    case httpProxy | httpsProxy | noProxy =>
      exact Single.settles_ofOptional _ _ (by rw [findSome?_two]; rfl)
    case timeout => exact Single.settles_ofNumber _ _ (by rw [findSome?_one]; rfl)
    case maxConcurrentScans => exact Single.settles_ofNumber _ _ rfl
    case tokenKind | appName | caCertPath => exact Single.settles_fixed _ _
  tags := rfl
  on := by simp [turnedOn, Arguments.overrule, mergeVariables]
  off := by simp [turnedOff, Arguments.overrule, mergeVariables]

/-- What the variables say twice counts once. -/
theorem mergeVariables_mergeVariables (base : Settings) (env : Environment) :
    (base.mergeVariables env).mergeVariables env = base.mergeVariables env := by
  have hgetD {α : Type} (stated : Option α) (value : α) :
      stated.getD (stated.getD value) = stated.getD value := by
    cases stated <;> rfl
  have hor {α : Type} (stated value : Option α) :
      stated.or (stated.or value) = stated.or value := by
    cases stated <;> rfl
  simp only [mergeVariables, hgetD, hor]

/-- For all arguments, all variables and all settings that are there already:

* the settings of the run are those that the tables describe, and no others: each setting with one
  value has the value that the arguments give, or else the one that the variables state, or else
  the one that it had; the tags of the arguments stand behind those that are there; and what is on
  or off is turned in one direction only;
* what the variables say twice counts once;
* a setting does not change with variables that are not its own, and no variable belongs to two. -/
theorem settings_are_layered (arguments : Arguments) (env : Environment) (base : Settings) :
    (∀ after, after = arguments.overrule (base.mergeVariables env) ↔
      Layered arguments env base after) ∧
    (base.mergeVariables env).mergeVariables env = base.mergeVariables env ∧
    (∀ (other : Environment), ∀ single ∈ singles,
      (∀ name ∈ single.names, env name = other name) →
        single.get (arguments.overrule (base.mergeVariables env)) =
          single.get (arguments.overrule (base.mergeVariables other))) ∧
    singles.Pairwise fun first second => ∀ name ∈ first.names, name ∉ second.names := by
  have hlayered (env : Environment) := layered_overrule arguments env base
  refine ⟨fun after => ⟨?_, fun h => h.eq (hlayered env)⟩, mergeVariables_mergeVariables base env,
    fun other single hmem hsame => ?_, by decide⟩
  · rintro rfl
    exact hlayered env
  · exact (((hlayered env).single single hmem).congr hsame).eq ((hlayered other).single single hmem)

/-- Variables that state a secure proxy in upper and in lower case. -/
def proxyVariables : Environment := fun name =>
  if name = "HTTPS_PROXY" then some "socks5://upper:1080"
  else if name = "https_proxy" then some "socks5://lower:1080"
  else none

/-- They also state a region, and a timeout that is no number. -/
def sampleVariables : Environment := fun name =>
  if name = "AMSCAN_REGION" then some "ap-south-1"
  else if name = "AMSCAN_TIMEOUT" then some "soon"
  else proxyVariables name

/-- The variable in lower case is not heard beside the one in upper case, and the timeout that is
no number is not heard at all. The arguments overrule the region and turn TLS off. The proxy is
the same without the region and the timeout. -/
theorem settings_are_layered_upperCase :
    ∃ after, Layered { region := some "eu-central-1", tags := ["late"], noTls := true }
        sampleVariables { scan := { tags := ["early"] } } after ∧
      after.service.region = "eu-central-1" ∧ after.service.timeoutSeconds = 300 ∧
      after.service.useTls = false ∧ after.proxy.httpsProxy = some "socks5://upper:1080" ∧
      after.scan.tags = ["early", "late"] ∧
      (Arguments.overrule { region := some "eu-central-1", tags := ["late"], noTls := true }
        (mergeVariables { scan := { tags := ["early"] } } proxyVariables)).proxy.httpsProxy =
          some "socks5://upper:1080" := by
  obtain ⟨hlayered, -, hothers, -⟩ := settings_are_layered
    { region := some "eu-central-1", tags := ["late"], noTls := true } sampleVariables
    { scan := { tags := ["early"] } }
  have hproxy := hothers proxyVariables
    (.ofOptional (·.proxy.httpsProxy) ["HTTPS_PROXY", "https_proxy"] fun _ => none)
    (List.mem_of_getElem? (i := 8) rfl) (by decide)
  have hstated : (mergeVariables { scan := { tags := ["early"] } }
      sampleVariables).proxy.httpsProxy = some "socks5://upper:1080" := by decide
  exact ⟨_, (hlayered _).1 rfl, rfl, by decide, rfl, hstated, rfl, hproxy.symm.trans hstated⟩

end MalwareScan.Settings
