import MalwareScan.Client.Address
import MalwareScan.Proofs.Text.Numerals

/-!
# Scanner addresses as they are written

`States` is what a user may write for the address of a scanner: a host with or without brackets,
and behind it nothing or a colon and the digits of a port. `Reads` is what a text is taken for
(`parse_eq_ok_iff`): it also lets text that is no port follow the closing bracket, which is
dropped, and a plus sign stand in front of the digits. The main theorem is
`address_as_written_iff`.
-/

namespace MalwareScan.ScannerAddress

open Text (IsDigits digitsValue trimChars)

variable {useTls : Bool} {cs host tail digits front rest : List Char} {c : Char} {port : UInt16}
  {address : ScannerAddress} {text target : String} {e : Error}

/-! ## Splitting a text -/

/-- A text is split at the first of its characters that is `c`. -/
theorem splitFirst_eq_some_iff :
    splitFirst c cs = some (front, rest) ↔ cs = front ++ c :: rest ∧ c ∉ front := by
  induction cs generalizing front with
  | nil => simp [splitFirst]
  | cons d cs ih =>
      unfold splitFirst
      by_cases hd : d = c
      · subst hd
        cases front with
        | nil => simp
        | cons d' front =>
            simp only [if_true, Option.some.injEq, Prod.mk.injEq, List.cons_append, List.cons.injEq,
              List.mem_cons, not_or]
            exact ⟨nofun, fun h => absurd h.1.1 h.2.1⟩
      · rw [if_neg hd, Option.map_eq_some_iff]
        constructor
        · rintro ⟨⟨a, b⟩, hsplit, heq⟩
          cases heq
          obtain ⟨rfl, hfront⟩ := ih.1 hsplit
          exact ⟨rfl, List.not_mem_cons_of_ne_of_not_mem (Ne.symm hd) hfront⟩
        · rintro ⟨heq, hfront⟩
          cases front with
          | nil => exact absurd (List.head_eq_of_cons_eq heq) hd
          | cons d' front =>
              cases heq
              exact ⟨(front, rest), ih.2 ⟨rfl, fun h => hfront (List.mem_cons_of_mem d h)⟩, rfl⟩

/-- A text without `c` is not split. -/
theorem splitFirst_eq_none_iff : splitFirst c cs = none ↔ c ∉ cs := by
  rw [Option.eq_none_iff_forall_ne_some]
  constructor
  · intro hnone hmem
    obtain ⟨front, rest, rfl, hfront⟩ := List.eq_append_cons_of_mem hmem
    exact hnone (front, rest) (splitFirst_eq_some_iff.2 ⟨rfl, hfront⟩)
  · rintro hnot ⟨front, rest⟩ hsplit
    obtain ⟨rfl, -⟩ := splitFirst_eq_some_iff.1 hsplit
    simp at hnot

/-! ## What is written -/

/-- The digits of a port, and nothing else. -/
structure IsPort (digits : List Char) (port : UInt16) : Prop where
  isDigits : IsDigits digits
  value : digitsValue digits = port.toNat

/-- The address that a text without blanks around it states: a host and the default port, or a host
without a colon and a port behind a colon; a host may stand in brackets. -/
inductive States (useTls : Bool) : List Char → ScannerAddress → Prop where
  | host (host : List Char) :
      States useTls host ⟨String.ofList host, defaultPort useTls⟩
  | hostPort (host digits : List Char) (port : UInt16) : ':' ∉ host → IsPort digits port →
      States useTls (host ++ ':' :: digits) ⟨String.ofList host, port⟩
  | bracketed (host : List Char) :
      States useTls ('[' :: (host ++ [']'])) ⟨String.ofList host, defaultPort useTls⟩
  | bracketedPort (host digits : List Char) (port : UInt16) : IsPort digits port →
      States useTls ('[' :: (host ++ ']' :: ':' :: digits)) ⟨String.ofList host, port⟩

/-- A port as it is read: a plus sign may stand in front of its digits. -/
inductive ReadsPort : List Char → UInt16 → Prop where
  | plain (digits : List Char) (port : UInt16) : IsPort digits port → ReadsPort digits port
  | signed (digits : List Char) (port : UInt16) : IsPort digits port →
      ReadsPort ('+' :: digits) port

/-- The address that a text is taken for. The brackets of a host end at the first closing one, and
what follows them counts only if it begins with a colon. Without brackets there is a port if there
is exactly one colon. -/
inductive Reads (useTls : Bool) : List Char → ScannerAddress → Prop where
  | host (host : List Char) : host.head? ≠ some '[' → host.count ':' ≠ 1 →
      Reads useTls host ⟨String.ofList host, defaultPort useTls⟩
  | hostPort (host digits : List Char) (port : UInt16) : host.head? ≠ some '[' → ':' ∉ host →
      ReadsPort digits port → Reads useTls (host ++ ':' :: digits) ⟨String.ofList host, port⟩
  | bracketed (host tail : List Char) : ']' ∉ host → tail.head? ≠ some ':' →
      Reads useTls ('[' :: (host ++ ']' :: tail)) ⟨String.ofList host, defaultPort useTls⟩
  | bracketedPort (host digits : List Char) (port : UInt16) : ']' ∉ host → ReadsPort digits port →
      Reads useTls ('[' :: (host ++ ']' :: ':' :: digits)) ⟨String.ofList host, port⟩

/-- Something is written that a scanner's address has no place for: text other than a port behind
the closing bracket, or a sign in front of a port. -/
inductive IsLax : List Char → Prop where
  | behindBracket (host tail : List Char) (c : Char) : ']' ∉ host → c ≠ ':' →
      IsLax ('[' :: (host ++ ']' :: c :: tail))
  | bracketedSign (host digits : List Char) : ']' ∉ host →
      IsLax ('[' :: (host ++ ']' :: ':' :: '+' :: digits))
  | sign (host digits : List Char) : host.head? ≠ some '[' → ':' ∉ host → ':' ∉ digits →
      IsLax (host ++ ':' :: '+' :: digits)

/-! ## What is read -/

/-- A port is read from its digits, with a plus sign or without one. -/
theorem parsePort_eq_ok_iff : parsePort target cs = .ok port ↔ ReadsPort cs port := by
  have hread : parsePort target cs = .ok port ↔ Text.uint16? (String.ofList cs) = some port := by
    unfold parsePort
    split
    · rename_i read hsome
      rw [hsome, Except.ok.injEq, Option.some.injEq]
    · rename_i hnone
      rw [hnone]
      exact ⟨nofun, nofun⟩
  rw [hread, Text.uint16?_eq_some_iff, String.toList_ofList]
  constructor
  · rintro ⟨digits, hdigits, hvalue, rfl | rfl⟩
    · exact .plain cs port ⟨hdigits, hvalue⟩
    · exact .signed digits port ⟨hdigits, hvalue⟩
  · intro h
    cases h with
    | plain _ _ hport => exact ⟨cs, hport.isDigits, hport.value, .inl rfl⟩
    | signed digits _ hport => exact ⟨digits, hport.isDigits, hport.value, .inr rfl⟩

/-- Anything else is no port. -/
theorem parsePort_eq_error (h : parsePort target cs = .error e) :
    e = .configuration ("Invalid port in scanner address " ++ target) := by
  unfold parsePort at h
  split at h
  · cases h
  · cases h
    rfl

/-- An address with a port is read if its port is. -/
theorem map_parsePort_eq_ok_iff :
    (parsePort target digits).map (fun port => (⟨String.ofList host, port⟩ : ScannerAddress)) =
        .ok address ↔
      ∃ port, ReadsPort digits port ∧ address = ⟨String.ofList host, port⟩ := by
  have hread : ∀ port, parsePort target digits = .ok port ↔ ReadsPort digits port :=
    fun _ => parsePort_eq_ok_iff
  simp only [← hread]
  cases parsePort target digits with
  | error => exact ⟨nofun, fun ⟨_, h, _⟩ => nomatch h⟩
  | ok port =>
      constructor
      · intro h
        exact ⟨port, rfl, (Except.ok.inj h).symm⟩
      · rintro ⟨_, hport, rfl⟩
        cases hport
        rfl

/-- A port has no colon. -/
theorem ReadsPort.not_mem_colon (h : ReadsPort digits port) : ':' ∉ digits := by
  have hdigits : ∀ {digits}, IsPort digits port → ':' ∉ digits := fun hport hmem =>
    absurd (hport.isDigits.isDigit ':' hmem) (by decide)
  cases h with
  | plain _ _ hport => exact hdigits hport
  | signed rest _ hport =>
      rw [List.mem_cons, not_or]
      exact ⟨by decide, hdigits hport⟩

/-- The address that characters without blanks around them are taken for. -/
def ofTrimmed (cs : List Char) (useTls : Bool) : Outcome ScannerAddress :=
  let target := String.ofList cs
  match cs with
  | '[' :: rest =>
    match splitFirst ']' rest with
    | none => .error (.configuration ("Invalid scanner address " ++ target))
    | some (host, ':' :: digits) =>
      (parsePort target digits).map fun port => ⟨String.ofList host, port⟩
    | some (host, _) => .ok ⟨String.ofList host, defaultPort useTls⟩
  | cs =>
    match splitFirst ':' cs with
    | some (host, digits) =>
      if digits.contains ':' then .ok ⟨target, defaultPort useTls⟩
      else (parsePort target digits).map fun port => ⟨String.ofList host, port⟩
    | none => .ok ⟨target, defaultPort useTls⟩

/-- The blanks around a text do not matter. -/
theorem parse_eq_ofTrimmed (text : String) (useTls : Bool) :
    parse text useTls = ofTrimmed (trimChars text.toList) useTls :=
  rfl

/-- Brackets that are not closed are no address. -/
theorem ofTrimmed_unclosed (hrest : ']' ∉ rest) :
    ofTrimmed ('[' :: rest) useTls =
      .error (.configuration ("Invalid scanner address " ++ String.ofList ('[' :: rest))) := by
  simp only [ofTrimmed, splitFirst_eq_none_iff.2 hrest]

/-- Behind the closing bracket a colon begins a port. -/
theorem ofTrimmed_bracketedPort (hhost : ']' ∉ host) :
    ofTrimmed ('[' :: (host ++ ']' :: ':' :: digits)) useTls =
      (parsePort (String.ofList ('[' :: (host ++ ']' :: ':' :: digits))) digits).map
        fun port => ⟨String.ofList host, port⟩ := by
  simp only [ofTrimmed, splitFirst_eq_some_iff.2 ⟨rfl, hhost⟩]

/-- Anything else behind the closing bracket is dropped. -/
theorem ofTrimmed_bracketed (hhost : ']' ∉ host) (htail : tail.head? ≠ some ':') :
    ofTrimmed ('[' :: (host ++ ']' :: tail)) useTls =
      .ok ⟨String.ofList host, defaultPort useTls⟩ := by
  simp only [ofTrimmed, splitFirst_eq_some_iff.2 ⟨rfl, hhost⟩]
  split
  · rename_i heq
    cases heq
  · rename_i heq
    cases heq
    exact absurd rfl htail
  · rename_i heq
    cases heq
    rfl

/-- Without brackets the only colon begins a port. -/
theorem ofTrimmed_hostPort (hhead : host.head? ≠ some '[') (hhost : ':' ∉ host)
    (hdigits : ':' ∉ digits) :
    ofTrimmed (host ++ ':' :: digits) useTls =
      (parsePort (String.ofList (host ++ ':' :: digits)) digits).map
        fun port => ⟨String.ofList host, port⟩ := by
  have hcontains : digits.contains ':' = false := by simpa using hdigits
  unfold ofTrimmed
  split
  · rename_i rest heq
    cases host with
    | nil => cases heq
    | cons d host => exact absurd (congrArg some (List.head_eq_of_cons_eq heq)) hhead
  · simp only [splitFirst_eq_some_iff.2 ⟨rfl, hhost⟩, hcontains, Bool.false_eq_true, if_false]

/-- Without brackets all of a text with no colon, or with several ones, is the host. -/
theorem ofTrimmed_host (hhead : host.head? ≠ some '[') (hcount : host.count ':' ≠ 1) :
    ofTrimmed host useTls = .ok ⟨String.ofList host, defaultPort useTls⟩ := by
  unfold ofTrimmed
  split
  · exact absurd rfl hhead
  · split
    · rename_i front rest hsplit
      obtain ⟨rfl, hfront⟩ := splitFirst_eq_some_iff.1 hsplit
      have hmore : rest.contains ':' = true := by
        rw [List.count_append, List.count_cons_self, List.count_eq_zero_of_not_mem hfront] at hcount
        simpa [List.count_eq_zero] using hcount
      rw [if_pos hmore]
    · rfl

/-- The shapes of an address: brackets that are not closed, brackets with a port behind them or with
anything else, a host and a port, and a host. -/
inductive Shape : List Char → Prop where
  | unclosed (rest : List Char) : ']' ∉ rest → Shape ('[' :: rest)
  | bracketedPort (host digits : List Char) : ']' ∉ host →
      Shape ('[' :: (host ++ ']' :: ':' :: digits))
  | bracketed (host tail : List Char) : ']' ∉ host → tail.head? ≠ some ':' →
      Shape ('[' :: (host ++ ']' :: tail))
  | hostPort (host digits : List Char) : host.head? ≠ some '[' → ':' ∉ host → ':' ∉ digits →
      Shape (host ++ ':' :: digits)
  | host (host : List Char) : host.head? ≠ some '[' → host.count ':' ≠ 1 → Shape host

/-- Every text has one of the shapes. -/
theorem shape (cs : List Char) : Shape cs := by
  by_cases hbracket : cs.head? = some '['
  · obtain ⟨rest, rfl⟩ := List.head?_eq_some_iff.1 hbracket
    by_cases hclosed : ']' ∈ rest
    · obtain ⟨host, tail, rfl, hhost⟩ := List.eq_append_cons_of_mem hclosed
      by_cases htail : tail.head? = some ':'
      · obtain ⟨digits, rfl⟩ := List.head?_eq_some_iff.1 htail
        exact .bracketedPort host digits hhost
      · exact .bracketed host tail hhost htail
    · exact .unclosed rest hclosed
  · by_cases hcount : cs.count ':' = 1
    · have hcolon : ':' ∈ cs := List.count_pos_iff.1 (by omega)
      obtain ⟨host, digits, rfl, hhost⟩ := List.eq_append_cons_of_mem hcolon
      rw [List.count_append, List.count_cons_self, List.count_eq_zero_of_not_mem hhost] at hcount
      refine .hostPort host digits ?_ hhost (List.count_eq_zero.1 (by omega))
      cases host with
      | nil => nofun
      | cons d host => exact hbracket
    · exact .host cs hbracket hcount

/-- A text is read as an address exactly if it is taken for it. -/
theorem ofTrimmed_eq_ok_iff : ofTrimmed cs useTls = .ok address ↔ Reads useTls cs address := by
  constructor
  · intro h
    cases shape cs with
    | unclosed rest hrest =>
        rw [ofTrimmed_unclosed hrest] at h
        cases h
    | bracketedPort host digits hhost =>
        rw [ofTrimmed_bracketedPort hhost, map_parsePort_eq_ok_iff] at h
        obtain ⟨port, hport, rfl⟩ := h
        exact .bracketedPort host digits port hhost hport
    | bracketed host tail hhost htail =>
        rw [ofTrimmed_bracketed hhost htail] at h
        cases h
        exact .bracketed host tail hhost htail
    | hostPort host digits hhead hhost hdigits =>
        rw [ofTrimmed_hostPort hhead hhost hdigits, map_parsePort_eq_ok_iff] at h
        obtain ⟨port, hport, rfl⟩ := h
        exact .hostPort host digits port hhead hhost hport
    | host _ hhead hcount =>
        rw [ofTrimmed_host hhead hcount] at h
        cases h
        exact .host cs hhead hcount
  · intro h
    cases h with
    | host _ hhead hcount => exact ofTrimmed_host hhead hcount
    | hostPort host digits port hhead hhost hport =>
        rw [ofTrimmed_hostPort hhead hhost hport.not_mem_colon, map_parsePort_eq_ok_iff]
        exact ⟨port, hport, rfl⟩
    | bracketed host tail hhost htail => exact ofTrimmed_bracketed hhost htail
    | bracketedPort host digits port hhost hport =>
        rw [ofTrimmed_bracketedPort hhost, map_parsePort_eq_ok_iff]
        exact ⟨port, hport, rfl⟩

/-- What is said of a text that is no address. -/
inductive Refuses (cs : List Char) : Error → Prop where
  | address : Refuses cs (.configuration ("Invalid scanner address " ++ String.ofList cs))
  | port : Refuses cs (.configuration ("Invalid port in scanner address " ++ String.ofList cs))

/-- A port that is not read makes the whole text no address. -/
theorem refuses_of_map_parsePort
    (h : (parsePort (String.ofList cs) digits).map
      (fun port => (⟨String.ofList host, port⟩ : ScannerAddress)) = .error e) : Refuses cs e := by
  cases hport : parsePort (String.ofList cs) digits with
  | ok port =>
      rw [hport] at h
      cases h
  | error fault =>
      rw [hport] at h
      cases h
      rw [parsePort_eq_error hport]
      exact .port

/-- A text that is not read is refused for its port or for its brackets. -/
theorem refuses_of_ofTrimmed (h : ofTrimmed cs useTls = .error e) : Refuses cs e := by
  cases shape cs with
  | unclosed rest hrest =>
      rw [ofTrimmed_unclosed hrest] at h
      cases h
      exact .address
  | bracketedPort host digits hhost =>
      rw [ofTrimmed_bracketedPort hhost] at h
      exact refuses_of_map_parsePort h
  | bracketed host tail hhost htail =>
      rw [ofTrimmed_bracketed hhost htail] at h
      cases h
  | hostPort host digits hhead hhost hdigits =>
      rw [ofTrimmed_hostPort hhead hhost hdigits] at h
      exact refuses_of_map_parsePort h
  | host _ hhead hcount =>
      rw [ofTrimmed_host hhead hcount] at h
      cases h

/-! ## What is read is what is stated -/

/-- A port does not begin with a sign. -/
theorem not_isPort_plus (digits : List Char) (port : UInt16) : ¬ IsPort ('+' :: digits) port :=
  fun h => Text.not_isDigits_cons (by decide) digits h.isDigits

/-- A text in which nothing is lax states what it is taken for. -/
theorem Reads.states (h : Reads useTls cs address) (hlax : ¬ IsLax cs) :
    States useTls cs address := by
  cases h with
  | host _ => exact .host cs
  | hostPort host digits port hhead hhost hport =>
      cases hport with
      | plain _ _ hport => exact .hostPort host digits port hhost hport
      | signed digits _ hport =>
          have hdigits := (ReadsPort.plain digits port hport).not_mem_colon
          exact absurd (.sign host digits hhead hhost hdigits) hlax
  | bracketed host tail hhost htail =>
      cases tail with
      | nil => exact .bracketed host
      | cons c tail =>
          exact absurd (.behindBracket host tail c hhost fun hc => htail (congrArg some hc)) hlax
  | bracketedPort host digits port hhost hport =>
      cases hport with
      | plain _ _ hport => exact .bracketedPort host digits port hport
      | signed digits _ hport => exact absurd (.bracketedSign host digits hhost) hlax

/-- The ways to state an address. -/
theorem States.eq_or (h : States useTls cs ⟨String.ofList host, port⟩) :
    cs = host ∨ cs = '[' :: (host ++ [']']) ∨
      (∃ digits, ':' ∉ host ∧ IsPort digits port ∧ cs = host ++ ':' :: digits) ∨
      ∃ digits, IsPort digits port ∧ cs = '[' :: (host ++ ']' :: ':' :: digits) := by
  generalize haddress : (⟨String.ofList host, port⟩ : ScannerAddress) = address at h
  have hhost : ∀ other (other_port : UInt16),
      (⟨String.ofList host, port⟩ : ScannerAddress) = ⟨String.ofList other, other_port⟩ →
        host = other ∧ port = other_port := fun _ _ heq =>
    ⟨String.ofList_injective (congrArg ScannerAddress.host heq), congrArg ScannerAddress.port heq⟩
  cases h with
  | host other => exact .inl (hhost _ _ haddress).1.symm
  | hostPort other digits other_port hcolon hport =>
      obtain ⟨rfl, rfl⟩ := hhost _ _ haddress
      exact .inr (.inr (.inl ⟨digits, hcolon, hport, rfl⟩))
  | bracketed other =>
      obtain ⟨rfl, -⟩ := hhost _ _ haddress
      exact .inr (.inl rfl)
  | bracketedPort other digits other_port hport =>
      obtain ⟨rfl, rfl⟩ := hhost _ _ haddress
      exact .inr (.inr (.inr ⟨digits, hport, rfl⟩))

/-- A bracket moves a host without a colon, so that the colon behind it stands elsewhere. -/
theorem bracket_append_ne (hhost : ':' ∉ host) (front rest : List Char) :
    '[' :: (host ++ front) ≠ host ++ ':' :: rest := by
  induction host with
  | nil => exact fun heq => absurd (List.head_eq_of_cons_eq heq) (by decide)
  | cons d host ih =>
      intro heq
      obtain ⟨rfl, hmoved⟩ := List.cons.inj heq
      exact ih (fun hmem => hhost (List.mem_cons_of_mem _ hmem)) hmoved

/-- A host is not all of a text in which something stands around it. -/
theorem ne_of_length_lt (h : host.length < cs.length) : cs ≠ host :=
  fun heq => absurd (congrArg List.length heq) (by omega)

/-- A lax text does not state what it is taken for. -/
theorem Reads.not_states (h : Reads useTls cs address) (hlax : IsLax cs) :
    ¬ States useTls cs address := by
  intro hstates
  rw [← ofTrimmed_eq_ok_iff] at h
  cases hlax with
  | behindBracket host tail c hhost hc =>
      have htail : (c :: tail).head? ≠ some ':' := fun heq => hc (Option.some.inj heq)
      rw [ofTrimmed_bracketed hhost htail] at h
      cases h
      rcases hstates.eq_or with heq | heq | ⟨digits, hcolon, -, heq⟩ | ⟨digits, -, heq⟩
      · exact ne_of_length_lt (by simp only [List.length_cons, List.length_append]; omega) heq
      · simp at heq
      · exact bracket_append_ne hcolon _ _ heq
      · simp only [List.cons.injEq, List.append_cancel_left_eq, true_and] at heq
        exact hc heq.1
  | bracketedSign host digits hhost =>
      rw [ofTrimmed_bracketedPort hhost, map_parsePort_eq_ok_iff] at h
      obtain ⟨port, -, rfl⟩ := h
      rcases hstates.eq_or with heq | heq | ⟨_, hcolon, -, heq⟩ | ⟨_, hport, heq⟩
      · exact ne_of_length_lt (by simp only [List.length_cons, List.length_append]; omega) heq
      · simp at heq
      · exact bracket_append_ne hcolon _ _ heq
      · simp only [List.cons.injEq, List.append_cancel_left_eq, true_and] at heq
        rw [← heq] at hport
        exact not_isPort_plus digits port hport
  | sign host digits hhead hhost hdigits =>
      have hmore : ':' ∉ '+' :: digits := by
        rw [List.mem_cons, not_or]
        exact ⟨by decide, hdigits⟩
      rw [ofTrimmed_hostPort hhead hhost hmore, map_parsePort_eq_ok_iff] at h
      obtain ⟨port, -, rfl⟩ := h
      rcases hstates.eq_or with heq | heq | ⟨_, -, hport, heq⟩ | ⟨_, -, heq⟩
      · exact ne_of_length_lt (by simp) heq
      · exact bracket_append_ne hhost _ _ heq.symm
      · simp only [List.append_cancel_left_eq, List.cons.injEq, true_and] at heq
        rw [← heq] at hport
        exact not_isPort_plus digits port hport
      · exact bracket_append_ne hhost _ _ heq.symm

/-- A text is read exactly if it can be taken for an address, and otherwise refused as a setting.
What is read is what the trimmed text states, unless something else than a port stands behind the
closing bracket, or a sign in front of the port: then it is an address that is not stated. -/
theorem address_as_written_iff (text : String) (useTls : Bool) :
    (∀ address, parse text useTls = .ok address ↔ Reads useTls (trimChars text.toList) address) ∧
    (∀ e, parse text useTls = .error e → Refuses (trimChars text.toList) e) ∧
    ∀ address, parse text useTls = .ok address →
      (States useTls (trimChars text.toList) address ↔ ¬ IsLax (trimChars text.toList)) := by
  simp only [parse_eq_ofTrimmed]
  refine ⟨fun address => ofTrimmed_eq_ok_iff, fun e => refuses_of_ofTrimmed, ?_⟩
  intro address hread
  have hreads := ofTrimmed_eq_ok_iff.1 hread
  exact ⟨fun hstates hlax => hreads.not_states hlax hstates, hreads.states⟩

/-- An address in brackets, with a port and blanks around it. -/
theorem address_as_written_bracketed :
    parse " [::1]:8443\n" true = .ok ⟨"::1", 8443⟩ ∧
      States true (trimChars " [::1]:8443\n".toList) ⟨"::1", 8443⟩ ∧
      ¬ IsLax (trimChars " [::1]:8443\n".toList) := by
  have htrimmed : trimChars " [::1]:8443\n".toList = '[' :: ("::1".toList ++ "]:8443".toList) := by
    decide
  have hport : IsPort "8443".toList 8443 :=
    ⟨⟨by decide, by simp⟩, by decide⟩
  obtain ⟨hreads, -, hstates⟩ := address_as_written_iff " [::1]:8443\n" true
  rw [htrimmed] at hreads hstates ⊢
  have hread := (hreads ⟨"::1", 8443⟩).2
    (.bracketedPort "::1".toList "8443".toList 8443 (by decide) (.plain _ _ hport))
  have hstated : States true ('[' :: ("::1".toList ++ "]:8443".toList)) ⟨"::1", 8443⟩ :=
    .bracketedPort "::1".toList "8443".toList 8443 hport
  exact ⟨hread, hstated, (hstates _ hread).1 hstated⟩

/-- A port without a colon behind the closing bracket is dropped, so that the default port is
used, and a sign in front of a port is skipped. -/
theorem address_not_as_written :
    ¬ ∀ (text : String) (useTls : Bool) (address : ScannerAddress),
      parse text useTls = .ok address → States useTls (trimChars text.toList) address := by
  intro h
  have htrimmed : trimChars "[::1]8443".toList =
      '[' :: ("::1".toList ++ ']' :: '8' :: "443".toList) := by
    decide
  have hread : ofTrimmed (trimChars "[::1]8443".toList) false = .ok ⟨"::1", 80⟩ := by
    rw [htrimmed]
    exact ofTrimmed_bracketed (by decide) (by decide)
  have hreads := ofTrimmed_eq_ok_iff.1 hread
  have hlax : IsLax (trimChars "[::1]8443".toList) := by
    rw [htrimmed]
    exact .behindBracket "::1".toList "443".toList '8' (by decide) (by decide)
  exact hreads.not_states hlax (h _ _ _ hread)

end MalwareScan.ScannerAddress
