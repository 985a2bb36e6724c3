import MalwareScan.Url.Parse

/-!
# Texts in front of a mark

The query and the fragment of a URL stand behind a question mark or a number sign. No part in front
of the first of these marks depends on what stands behind it, and neither does whether the text is
a URL at all: each part is read the same with the mark and any text behind it. The main theorem is
`parse_redacted_eq`.
-/

namespace MalwareScan.Url

/-- A question mark or a number sign, which ends the path of a URL. -/
def isMark (c : Char) : Bool :=
  c == '?' || c == '#'

/-- A text without marks. -/
def NoMarks (cs : List Char) : Prop :=
  ∀ c ∈ cs, isMark c = false

instance (cs : List Char) : Decidable (NoMarks cs) :=
  decidable_of_iff (cs.all (!isMark ·) = true) (by simp [NoMarks])

variable {cs ds : List Char} {c d : Char} {p : Char → Bool} {kind : SchemeKind} {scheme : String}

/-- Fewer characters have no more marks. -/
theorem NoMarks.of_subset (h : NoMarks cs) (hsub : ds ⊆ cs) : NoMarks ds :=
  fun _ hd => h _ (hsub hd)

/-- A mark is one of two characters. -/
theorem eq_of_isMark (h : isMark c = true) : c = '?' ∨ c = '#' := by
  simpa [isMark] using h

/-- What holds of no mark is not a property of this one. -/
theorem eq_false_of_isMark (h : isMark c = true) (hquestion : p '?' = false)
    (hnumber : p '#' = false) : p c = false := by
  rcases eq_of_isMark h with rfl | rfl
  · exact hquestion
  · exact hnumber

/-- A character without a property of both marks is none. -/
theorem noMark_of_eq_false (h : p c = false) (hquestion : p '?' = true) (hnumber : p '#' = true) :
    isMark c = false := by
  cases hmark : isMark c with
  | false => rfl
  | true =>
      rcases eq_of_isMark hmark with rfl | rfl
      · rw [hquestion] at h
        cases h
      · rw [hnumber] at h
        cases h

/-- A mark is no slash. -/
theorem not_slash_of_isMark (h : isMark c = true) : (c == '/' || c == '\\') = false :=
  eq_false_of_isMark (p := fun c => c == '/' || c == '\\') h rfl rfl

/-! ## Texts that go on -/

section

variable (hc : p c = false) (cs ds : List Char)

include hc

/-- A text ends in front of the first character that it does not take. -/
theorem takeWhile_append_cons : (cs ++ c :: ds).takeWhile p = cs.takeWhile p := by
  induction cs with
  | nil => exact List.takeWhile_cons_of_neg (by simp [hc])
  | cons d cs ih =>
      rw [List.cons_append, List.takeWhile_cons, List.takeWhile_cons, ih]

/-- What follows it goes on with this character. -/
theorem dropWhile_append_cons :
    (cs ++ c :: ds).dropWhile p = cs.dropWhile p ++ c :: ds := by
  induction cs with
  | nil => exact List.dropWhile_cons_of_neg (by simp [hc])
  | cons d cs ih =>
      rw [List.cons_append, List.dropWhile_cons, List.dropWhile_cons, ih]
      split <;> rfl

end

/-- To be none of the two marks is to be no mark. -/
theorem bne_and_bne_eq (c : Char) : (c != '?' && c != '#') = !isMark c := by
  simp [isMark, bne]

/-- A text up to its first mark has none. -/
theorem noMarks_takeWhile (cs : List Char) :
    NoMarks (cs.takeWhile fun c => c != '?' && c != '#') := by
  intro c hc
  have hinside := List.all_eq_true.1 List.all_takeWhile c hc
  rwa [bne_and_bne_eq, Bool.not_eq_true'] at hinside

section

variable (hc : isMark c = true) (hcs : NoMarks cs) (ds : List Char)

include hc hcs

/-- A text without marks ends at the first one. -/
theorem takeWhile_mark : (cs ++ c :: ds).takeWhile (fun c => c != '?' && c != '#') = cs := by
  have hinside : ∀ d ∈ cs, (d != '?' && d != '#') = true := by
    intro d hd
    rw [bne_and_bne_eq, hcs d hd]
    rfl
  rw [List.takeWhile_append_of_pos hinside, List.takeWhile_cons, bne_and_bne_eq, hc]
  exact List.append_nil cs

/-- Behind it the mark follows. -/
theorem dropWhile_mark : (cs ++ c :: ds).dropWhile (fun c => c != '?' && c != '#') = c :: ds := by
  have hsplit := List.takeWhile_append_dropWhile
    (p := fun c => c != '?' && c != '#') (l := cs ++ c :: ds)
  rw [takeWhile_mark hc hcs] at hsplit
  exact List.append_cancel_left hsplit

end

/-! ## The parts of a URL -/

/-- What is seen of a text in front of a mark. -/
def seenFront (text : String) : List Char :=
  (text.toList.dropWhile fun c => c.toNat ≤ 0x20).filter fun c =>
    c != '\t' && c != '\n' && c != '\r'

/-- Nothing else is seen there than what the text has. -/
theorem NoMarks.seenFront {text : String} (h : NoMarks text.toList) : NoMarks (seenFront text) :=
  h.of_subset fun _ hd => (List.dropWhile_suffix _).subset (List.mem_filter.1 hd).1

/-- In front of a mark the same is seen, whatever stands behind it. -/
theorem exists_visibleText (a q : String) (hc : isMark c = true) :
    ∃ tail, visibleText (a ++ String.singleton c ++ q) = seenFront a ++ c :: tail := by
  have houter : decide (c.toNat ≤ 0x20) = false :=
    eq_false_of_isMark (p := fun c => c.toNat ≤ 0x20) hc (by decide) (by decide)
  have hinner : (c != '\t' && c != '\n' && c != '\r') = true := by
    rcases eq_of_isMark hc with rfl | rfl <;> decide
  have htext : (a ++ String.singleton c ++ q).toList = a.toList ++ c :: q.toList := by simp
  -- From the end the mark is met before the front.
  have hback (front : List Char) : ((front ++ c :: q.toList).reverse.dropWhile
      fun c => decide (c.toNat ≤ 0x20)).reverse = front ++ c ::
        (q.toList.reverse.dropWhile fun c => decide (c.toNat ≤ 0x20)).reverse := by
    rw [List.reverse_append, List.reverse_cons, List.append_assoc, List.singleton_append,
      dropWhile_append_cons houter]
    simp
  refine ⟨(q.toList.reverse.dropWhile fun c => decide (c.toNat ≤ 0x20)).reverse.filter
    fun c => c != '\t' && c != '\n' && c != '\r', ?_⟩
  simp only [visibleText, seenFront]
  rw [htext, dropWhile_append_cons houter, hback, List.filter_append, List.filter_cons,
    if_pos hinner]

section

variable (hc : isMark c = true) (cs ds : List Char)

include hc

/-- A mark ends the authority. -/
theorem endsAuthority_mark (kind : SchemeKind) : endsAuthority kind c = true := by
  rcases eq_of_isMark hc with rfl | rfl <;> rfl

/-- The authority does not go on with it. -/
theorem not_endsAuthority_mark (kind : SchemeKind) : (!endsAuthority kind c) = false := by
  rw [endsAuthority_mark hc]
  rfl

/-- The scheme stands in front of the mark. -/
theorem splitScheme_append :
    splitScheme (cs ++ c :: ds) =
      (splitScheme cs).map fun (scheme, rest) => (scheme, rest ++ c :: ds) := by
  have hscheme : isSchemeChar c = false := eq_false_of_isMark hc (by decide) (by decide)
  have hletter : isLetter c = false := eq_false_of_isMark hc (by decide) (by decide)
  have hcolon : c ≠ ':' := by rcases eq_of_isMark hc with rfl | rfl <;> decide
  cases cs with
  | nil => simp [splitScheme, hletter]
  | cons first rest =>
      have htake := takeWhile_append_cons hscheme (first :: rest) ds
      have hdrop := dropWhile_append_cons hscheme (first :: rest) ds
      rw [List.cons_append] at htake hdrop ⊢
      simp only [splitScheme]
      rw [htake, hdrop]
      by_cases hfirst : isLetter first = true
      · cases hbehind : (first :: rest).dropWhile isSchemeChar with
        | nil => simp [hfirst, hcolon]
        | cons colon behind =>
            by_cases h : colon = ':'
            · simp [hfirst, h]
            · simp [hfirst, h]
      · simp [hfirst]

/-- The user stands in front of the mark. -/
theorem splitUser_append (kind : SchemeKind) :
    splitUser kind (cs ++ c :: ds) = ((splitUser kind cs).1, (splitUser kind cs).2 ++ c :: ds) := by
  have hends := not_endsAuthority_mark hc kind
  simp only [splitUser]
  rw [takeWhile_append_cons (p := fun c => !endsAuthority kind c) hends,
    dropWhile_append_cons (p := fun c => !endsAuthority kind c) hends]
  split <;> simp

/-- The host stands in front of the mark. -/
theorem hostLength_append (kind : SchemeKind) (inBrackets : Bool) :
    hostLength kind inBrackets (cs ++ c :: ds) = hostLength kind inBrackets cs := by
  induction cs generalizing inBrackets with
  | nil => simp [hostLength, endsAuthority_mark hc]
  | cons d cs ih => simp only [List.cons_append, hostLength, ih]

/-- The port stands in front of the mark. -/
theorem readPort_append (scheme : String) :
    readPort scheme (cs ++ c :: ds) =
      (readPort scheme cs).map fun (port, rest) => (port, rest ++ c :: ds) := by
  have hdigit : c.isDigit = false := eq_false_of_isMark hc (by decide) (by decide)
  have hends : (c == '/' || c == '\\' || c == '?' || c == '#') = true := by
    rcases eq_of_isMark hc with rfl | rfl <;> decide
  simp only [readPort]
  rw [takeWhile_append_cons hdigit, dropWhile_append_cons hdigit]
  cases hrest : cs.dropWhile Char.isDigit with
  | nil =>
      simp only [List.nil_append, hends]
      split
      · rfl
      · split <;> rfl
  | cons d rest =>
      simp only [List.cons_append]
      split
      · rfl
      · split <;> rfl

/-- The path stands in front of the mark. -/
theorem splitPath_append (hcs : NoMarks cs) : splitPath (cs ++ c :: ds) = (cs, c :: ds) := by
  rw [splitPath, takeWhile_mark hc hcs, dropWhile_mark hc hcs]

/-- What stands behind a host has its path in front of the mark. -/
theorem redacted_withPath (hcs : NoMarks cs) (url : Url) (kind : SchemeKind) :
    (url.withPath kind (cs ++ c :: ds)).redacted =
      { url.redacted with path := pathOf kind cs } := by
  simp only [withPath]
  rw [splitPath_append hc cs ds hcs]
  rfl

end

/-! ## Parts of parts -/

/-- What follows the scheme is part of the text. -/
theorem subset_of_splitScheme {rest : List Char} (h : splitScheme cs = some (scheme, rest)) :
    rest ⊆ cs := by
  unfold splitScheme at h
  split at h
  · cases h
  · rename_i first tail
    split at h
    · cases h
    · split at h
      · rename_i behind hbehind
        cases h
        intro d hd
        refine (List.dropWhile_suffix isSchemeChar).subset ?_
        rw [hbehind]
        exact List.mem_cons_of_mem _ hd
      · cases h

/-- What follows the user is part of the text. -/
theorem subset_splitUser (kind : SchemeKind) (cs : List Char) : (splitUser kind cs).2 ⊆ cs := by
  intro d hd
  simp only [splitUser] at hd
  split at hd
  · rcases List.mem_append.1 hd with hback | hrest
    · have hmem := (List.takeWhile_prefix _).subset (List.mem_reverse.1 hback)
      exact (List.takeWhile_prefix _).subset (List.mem_reverse.1 hmem)
    · exact (List.dropWhile_suffix _).subset hrest
  · exact hd

/-- What follows the port is part of the text. -/
theorem subset_of_readPort {port : Option UInt16} {rest : List Char}
    (h : readPort scheme cs = .ok (port, rest)) : rest ⊆ cs := by
  have hrest : rest = cs.dropWhile Char.isDigit := by
    simp only [readPort] at h
    repeat' split at h
    all_goals
      cases h <;> rfl
  rw [hrest]
  exact (List.dropWhile_suffix _).subset

/-- The host is no longer than the text. -/
theorem hostLength_le (kind : SchemeKind) (inBrackets : Bool) (cs : List Char) :
    hostLength kind inBrackets cs ≤ cs.length := by
  induction cs generalizing inBrackets with
  | nil => exact Nat.le_refl _
  | cons c cs ih =>
      rw [hostLength]
      split
      · exact Nat.zero_le _
      · exact Nat.succ_le_succ (ih _)

/-! ## Whole URLs -/

/-- The authority ends at the beginning of a text. -/
def endsHere (kind : SchemeKind) : List Char → Bool
  | [] => false
  | c :: _ => endsAuthority kind c

/-- The host that a text states. -/
def hostOf? (kind : SchemeKind) (cs : List Char) : Except UrlFault Host :=
  if kind = .other then opaqueHost? cs else specialHost? cs

/-- The port at the beginning of a text, and what follows it. -/
def portOf? (scheme : String) : List Char → Except UrlFault (Option UInt16 × List Char)
  | ':' :: cs => readPort scheme cs
  | cs => .ok (none, cs)

/-- A computation that succeeds has succeeded so far. -/
theorem exists_of_bind {α β : Type} {x : Except UrlFault α} {f : α → Except UrlFault β} {b : β}
    (h : x.bind f = .ok b) : ∃ a, x = .ok a ∧ f a = .ok b := by
  cases x with
  | error => cases h
  | ok a => exact ⟨a, rfl, h⟩

/-- Without a colon there is no port. -/
theorem portOf?_of_ne (h : ∀ rest, cs = ':' :: rest → False) :
    portOf? scheme cs = .ok (none, cs) := by
  unfold portOf?
  split
  · exact absurd rfl (h _)
  · rfl

/-- The parts of an authority, which are read one after the other. -/
theorem parseAuthority_eq (scheme : String) (kind : SchemeKind) (cs : List Char) :
    parseAuthority scheme kind cs =
      let user := (splitUser kind cs).1
      let rest := (splitUser kind cs).2
      let behind := rest.drop (hostLength kind false rest)
      let text := rest.take (hostLength kind false rest)
      let (username, password) := userOf (user.getD [])
      if user = some [] ∧ endsHere kind rest = true then .error .emptyHost
      else if kind = .special ∧ text.isEmpty = true then .error .emptyHost
      else (hostOf? kind text).bind fun host =>
        let isEmpty : Bool := host == .name ""
        if isEmpty = true ∧ behind.head? = some ':' then .error .emptyHost
        else (portOf? scheme behind).bind fun (port, rest) =>
          if isEmpty && (!username.isEmpty || password.isSome) then .error .emptyHost
          else
            let url : Url :=
              { scheme, username, password, host := if isEmpty then none else some host
                hasAuthority := true, port, path := .segments [] }
            .ok (url.withPath kind rest) := by
  unfold parseAuthority
  dsimp only
  generalize (splitUser kind cs).1 = user, (splitUser kind cs).2 = rest
  generalize rest.take (hostLength kind false rest) = text
  generalize rest.drop (hostLength kind false rest) = behind
  simp only [bind]
  by_cases huser : user = some [] ∧ endsHere kind rest = true
  · rw [if_pos huser, if_pos (by cases rest <;> exact huser)]
    rfl
  rw [if_neg huser, if_neg (by cases rest <;> exact huser)]
  by_cases hempty : kind = .special ∧ text.isEmpty = true
  · rw [if_pos hempty, if_pos hempty]
    rfl
  rw [if_neg hempty, if_neg hempty]
  -- The kinds only differ in how the host is read.
  have hhost {α : Type} (next : Host → Except UrlFault α) :
      (if kind = .other then (opaqueHost? text).bind next else (specialHost? text).bind next) =
        (hostOf? kind text).bind next := by
    unfold hostOf?
    split <;> rfl
  rw [hhost]
  congr 1
  funext host
  by_cases hname : (host == Host.name "") = true ∧ behind.head? = some ':'
  · rw [if_pos hname, if_pos hname]
    rfl
  rw [if_neg hname, if_neg hname]
  split
  · congr 1
  · rename_i hnone
    rw [portOf?_of_ne hnone]
    congr 1

/-- The URL of the root of this machine's files. -/
def fileUrl : Url :=
  { scheme := "file", hasAuthority := true, path := .segments [] }

/-- The text begins with two slashes. -/
def slashed : List Char → Bool
  | a :: b :: _ => (a == '/' || a == '\\') && (b == '/' || b == '\\')
  | _ => false

/-- What the text behind two slashes states of a file: it may name another machine. -/
def parseShare (cs : List Char) : Except UrlFault Url :=
  let text := cs.takeWhile fun c => !endsAuthority .file c
  if text.isEmpty = true ∨ isDriveLetter text = true then .ok (fileUrl.withPath .file cs)
  else
    (specialHost? text).bind fun host =>
      let host := if host = .name "localhost" then none else some host
      .ok ({ fileUrl with host }.withPath .file (cs.drop text.length))

/-- A text with two slashes has two characters. -/
theorem exists_of_slashed (h : slashed cs = true) : ∃ a b rest, cs = a :: b :: rest := by
  unfold slashed at h
  split at h
  · exact ⟨_, _, _, rfl⟩
  · cases h

/-- A URL of a file is a share or a path. -/
theorem parseFile_eq (cs : List Char) :
    parseFile cs =
      if slashed cs = true then parseShare (cs.drop 2) else .ok (fileUrl.withPath .file cs) := by
  match cs with
  | [] | [_] | _ :: _ :: _ => rfl

/-- A URL whose scheme is none of the special ones: two slashes stand in front of an authority. -/
def parseOther (scheme : String) : List Char → Except UrlFault Url
  | '/' :: '/' :: cs => parseAuthority scheme .other cs
  | cs => .ok (parsePlain scheme cs)

/-- Without two slashes there is no authority. -/
theorem parseOther_of_ne (h : ∀ rest, cs = '/' :: '/' :: rest → False) :
    parseOther scheme cs = .ok (parsePlain scheme cs) := by
  unfold parseOther
  split
  · exact absurd rfl (h _)
  · rfl

/-- A mark does not complete two slashes. -/
theorem slashes_append (hc : isMark c = true) (h : ∀ rest, cs = '/' :: '/' :: rest → False) :
    ∀ rest, cs ++ c :: ds = '/' :: '/' :: rest → False := by
  have hslash : c ≠ '/' := by rcases eq_of_isMark hc with rfl | rfl <;> decide
  intro rest heq
  match cs with
  | [] => exact hslash (List.cons.inj heq).1
  | [_] => exact hslash (List.cons.inj (List.cons.inj heq).2).1
  | a :: b :: tail =>
    simp only [List.cons_append, List.cons.injEq] at heq
    obtain ⟨rfl, rfl, -⟩ := heq
    exact h tail rfl

section

variable (hc : isMark c = true) (cs ds : List Char)

include hc

/-- A mark is no slash. -/
theorem slashed_append : slashed (cs ++ c :: ds) = slashed cs := by
  have hslash := not_slash_of_isMark hc
  match cs with
  | [] => cases ds <;> simp [slashed, hslash]
  | [a] => simp [slashed, hslash]
  | a :: b :: rest => rfl

/-- In front of a mark the authority ends with the text or earlier. -/
theorem endsHere_append (kind : SchemeKind) :
    endsHere kind (cs ++ c :: ds) = (cs.isEmpty || endsHere kind cs) := by
  cases cs with
  | nil => exact endsAuthority_mark hc kind
  | cons => rfl

/-- A mark is no colon. -/
theorem head?_append_eq_colon :
    (cs ++ c :: ds).head? = some ':' ↔ cs.head? = some ':' := by
  cases cs with
  | nil => rcases eq_of_isMark hc with rfl | rfl <;> simp
  | cons => rfl

/-- The port, if there is one, stands in front of the mark. -/
theorem portOf?_append (scheme : String) :
    portOf? scheme (cs ++ c :: ds) =
      (portOf? scheme cs).map fun (port, rest) => (port, rest ++ c :: ds) := by
  by_cases hcolon : ∃ rest, cs = ':' :: rest
  · obtain ⟨rest, rfl⟩ := hcolon
    exact readPort_append hc rest ds scheme
  · have hnone : ∀ rest, cs = ':' :: rest → False := fun rest h => hcolon ⟨rest, h⟩
    have hnone' : ∀ rest, cs ++ c :: ds = ':' :: rest → False := by
      intro rest h
      have hhead : (cs ++ c :: ds).head? = some ':' := by rw [h]; rfl
      rw [head?_append_eq_colon hc, List.head?_eq_some_iff] at hhead
      exact hcolon hhead
    rw [portOf?_of_ne hnone, portOf?_of_ne hnone']
    rfl

end

/-- What follows the port is part of the text. -/
theorem subset_of_portOf? {port : Option UInt16} {rest : List Char}
    (h : portOf? scheme cs = .ok (port, rest)) : rest ⊆ cs := by
  unfold portOf? at h
  split at h
  · exact List.subset_cons_of_subset _ (subset_of_readPort h)
  · cases h
    exact List.Subset.refl _

section

variable {c' : Char} {ds' : List Char} (hc : isMark c = true) (hc' : isMark c' = true)
  (hcs : NoMarks cs)

include hc hc' hcs

/-- Up to its query and its fragment a URL with an authority is the same with all marks and all that
stands behind them. -/
theorem redacted_parseAuthority (scheme : String) (kind : SchemeKind) :
    (parseAuthority scheme kind (cs ++ c :: ds)).map redacted =
      (parseAuthority scheme kind (cs ++ c' :: ds')).map redacted := by
  have hrest := hcs.of_subset (subset_splitUser kind cs)
  simp only [parseAuthority_eq, splitUser_append hc, splitUser_append hc', hostLength_append hc,
    hostLength_append hc', endsHere_append hc, endsHere_append hc']
  generalize (splitUser kind cs).1 = user, (splitUser kind cs).2 = rest at hrest
  have hlength := hostLength_le kind false rest
  have hbehind := hrest.of_subset (List.drop_subset (hostLength kind false rest) rest)
  -- The host is the same text, and what follows it goes on with the mark.
  simp only [List.take_append_of_le_length hlength, List.drop_append_of_le_length hlength]
  generalize rest.take (hostLength kind false rest) = text
  generalize rest.drop (hostLength kind false rest) = behind at hbehind
  simp only [head?_append_eq_colon hc, head?_append_eq_colon hc', portOf?_append hc,
    portOf?_append hc']
  split
  · rfl
  split
  · rfl
  cases hostOf? kind text with
  | error => rfl
  | ok host =>
      simp only [Except.bind]
      split
      · rfl
      cases hport : portOf? scheme behind with
      | error => rfl
      | ok result =>
          obtain ⟨port, after⟩ := result
          have hafter := hbehind.of_subset (subset_of_portOf? hport)
          show (if _ then _ else _ : Except UrlFault Url).map redacted =
            (if _ then _ else _ : Except UrlFault Url).map redacted
          split
          · rfl
          · simp only [Except.map, redacted_withPath hc after ds hafter,
              redacted_withPath hc' after ds' hafter]

/-- The same is true of what stands behind the slashes of a file. -/
theorem redacted_parseShare :
    (parseShare (cs ++ c :: ds)).map redacted = (parseShare (cs ++ c' :: ds')).map redacted := by
  have htext := List.takeWhile_prefix (fun c => !endsAuthority .file c) (l := cs)
  simp only [parseShare]
  rw [takeWhile_append_cons (p := fun c => !endsAuthority .file c)
    (not_endsAuthority_mark hc .file),
    takeWhile_append_cons (p := fun c => !endsAuthority .file c) (not_endsAuthority_mark hc' .file)]
  generalize cs.takeWhile (fun c => !endsAuthority .file c) = text at htext
  have hbehind := hcs.of_subset (List.drop_subset text.length cs)
  simp only [List.drop_append_of_le_length htext.length_le]
  split
  · simp only [Except.map, redacted_withPath hc cs ds hcs, redacted_withPath hc' cs ds' hcs]
  · cases specialHost? text with
    | error => rfl
    | ok host =>
        simp only [Except.bind, Except.map, redacted_withPath hc _ ds hbehind,
          redacted_withPath hc' _ ds' hbehind]

/-- The same is true of a URL of a file. -/
theorem redacted_parseFile :
    (parseFile (cs ++ c :: ds)).map redacted = (parseFile (cs ++ c' :: ds')).map redacted := by
  have hlocal : (fileUrl.withPath .file (cs ++ c :: ds)).redacted =
      (fileUrl.withPath .file (cs ++ c' :: ds')).redacted := by
    rw [redacted_withPath hc cs ds hcs, redacted_withPath hc' cs ds' hcs]
  rw [parseFile_eq, parseFile_eq, slashed_append hc, slashed_append hc']
  by_cases hslashed : slashed cs = true
  · obtain ⟨a, b, rest, rfl⟩ := exists_of_slashed hslashed
    have hrest : NoMarks rest := hcs.of_subset fun d hd => by simp [hd]
    rw [if_pos hslashed, if_pos hslashed]
    exact redacted_parseShare hc hc' hrest
  · rw [if_neg hslashed, if_neg hslashed]
    exact congrArg Except.ok hlocal

/-- The same is true of a URL without an authority. -/
theorem redacted_parsePlain (scheme : String) :
    (parsePlain scheme (cs ++ c :: ds)).redacted =
      (parsePlain scheme (cs ++ c' :: ds')).redacted := by
  simp only [parsePlain, splitPath_append hc cs ds hcs, splitPath_append hc' cs ds' hcs]
  rfl

/-- The same is true of a URL whose scheme is none of the special ones. -/
theorem redacted_parseOther (scheme : String) :
    (parseOther scheme (cs ++ c :: ds)).map redacted =
      (parseOther scheme (cs ++ c' :: ds')).map redacted := by
  by_cases hslashes : ∃ rest, cs = '/' :: '/' :: rest
  · obtain ⟨rest, rfl⟩ := hslashes
    have hrest : NoMarks rest := hcs.of_subset fun d hd => by simp [hd]
    exact redacted_parseAuthority hc hc' hrest scheme .other
  · have hnone : ∀ rest, cs = '/' :: '/' :: rest → False := fun rest h => hslashes ⟨rest, h⟩
    rw [parseOther_of_ne (slashes_append hc hnone), parseOther_of_ne (slashes_append hc' hnone)]
    exact congrArg Except.ok (redacted_parsePlain hc hc' hcs scheme)

end

/-- Whether a text is a URL, why it is none, and all of the URL but its query and its fragment are
the same with all marks behind the text and all that stands behind them. -/
theorem parse_redacted_eq {a q q' : String} {c' : Char} (ha : NoMarks a.toList)
    (hc : isMark c = true) (hc' : isMark c' = true) :
    (parse (a ++ String.singleton c ++ q)).map redacted =
      (parse (a ++ String.singleton c' ++ q')).map redacted := by
  obtain ⟨ds, hds⟩ := exists_visibleText a q hc
  obtain ⟨ds', hds'⟩ := exists_visibleText a q' hc'
  have hfront := ha.seenFront
  unfold parse
  rw [hds, hds', splitScheme_append hc, splitScheme_append hc']
  cases hscheme : splitScheme (seenFront a) with
  | none => rfl
  | some parts =>
      obtain ⟨scheme, rest⟩ := parts
      have hrest := hfront.of_subset (subset_of_splitScheme hscheme)
      simp only [Option.map_some]
      cases schemeKind scheme with
      | special =>
          have hslash := not_slash_of_isMark hc
          have hslash' := not_slash_of_isMark hc'
          simp only [dropWhile_append_cons (p := fun c => c == '/' || c == '\\') hslash,
            dropWhile_append_cons (p := fun c => c == '/' || c == '\\') hslash']
          have hkept := hrest.of_subset
              (List.dropWhile_suffix fun c => c == '/' || c == '\\').subset
          exact redacted_parseAuthority hc hc' hkept scheme .special
      | file => exact redacted_parseFile hc hc' hrest
      | other => exact redacted_parseOther hc hc' hrest scheme

end MalwareScan.Url
