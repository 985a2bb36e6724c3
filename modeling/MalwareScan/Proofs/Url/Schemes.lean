import MalwareScan.Proofs.Text.Characters
import MalwareScan.Proofs.Url.Marks

/-!
# Written schemes

The scheme of a URL is the text in front of the first colon, in lower case. What is seen of a URL
begins with it as it is written, since it has none of the characters that are left out.
-/

namespace MalwareScan.Url

open Text (dropLastWhile)

variable {cs rest front tail : List Char} {text scheme : String} {kind : SchemeKind} {url : Url}

/-! ## What is seen of a text -/

/-- A character that is seen wherever it stands. -/
def isShown (c : Char) : Bool :=
  c != '\t' && c != '\n' && c != '\r'

/-- A text without the characters that are left out is seen as it is. -/
theorem filter_isShown_eq_self (h : ∀ c ∈ cs, c ∉ ['\t', '\n', '\r']) :
    cs.filter isShown = cs := by
  refine List.filter_eq_self.2 fun c hc => ?_
  have hother := h c hc
  simp only [List.mem_cons, List.not_mem_nil, or_false, not_or] at hother
  simp [isShown, hother]

/-- A control or a space, which is not seen at the ends of a text. -/
def isOuter (c : Char) : Bool :=
  c.toNat ≤ 0x20

/-- Nothing but some characters inside is left out of a text in front of one that is seen. -/
theorem visibleText_append (hfirst : ∀ c ∈ (front ++ tail).head?, isOuter c = false)
    (hlast : ∀ c ∈ front.getLast?, isOuter c = false) :
    visibleText (String.ofList (front ++ tail)) =
      front.filter isShown ++ (dropLastWhile isOuter tail).filter isShown := by
  have hvisible : visibleText (String.ofList (front ++ tail)) =
      (dropLastWhile isOuter ((front ++ tail).dropWhile isOuter)).filter isShown := by
    rw [visibleText, String.toList_ofList]
    rfl
  have hhead : (front ++ tail).dropWhile isOuter = front ++ tail :=
    Text.dropWhile_append_eq (List.forall_mem_nil _) hfirst
  rw [hvisible, hhead, Text.dropLastWhile_append hlast, List.filter_append]

/-- What is seen of a tail begins as the tail does, if it begins with a character that is seen. -/
theorem exists_visibleText_eq (hfirst : ∀ c ∈ front.head?, isOuter c = false)
    (hlast : tail = [] → ∀ c ∈ front.getLast?, isOuter c = false)
    (htail : ∀ c ∈ tail.head?, isOuter c = false ∧ isShown c = true) :
    ∃ seen, seen.head? = tail.head? ∧
      visibleText (String.ofList (front ++ tail)) = front.filter isShown ++ seen := by
  have hhead : ∀ c ∈ (front ++ tail).head?, isOuter c = false := by
    intro c hc
    cases front with
    | nil => exact (htail c hc).1
    | cons => exact hfirst c hc
  cases tail with
  | nil => exact ⟨[], rfl, visibleText_append hhead (hlast rfl)⟩
  | cons c tail =>
      obtain ⟨houter, hshown⟩ := htail c rfl
      have hsplit : front ++ c :: tail = (front ++ [c]) ++ tail := by simp
      refine ⟨c :: (dropLastWhile isOuter tail).filter isShown, rfl, ?_⟩
      rw [hsplit] at hhead ⊢
      rw [visibleText_append hhead (by simpa using houter), List.filter_append, List.filter_cons,
        if_pos hshown]
      simp

/-! ## Schemes -/

/-- A text in lower case. -/
def lowerCase (cs : List Char) : String :=
  String.ofList (cs.map Char.toLower)

/-- If there is a scheme, then it is the text in front of the first colon. -/
theorem eq_of_splitScheme (hcolon : ':' ∉ cs) {found : String × List Char}
    (h : splitScheme (cs ++ ':' :: rest) = some found) : found = (lowerCase cs, rest) := by
  have hstop : isSchemeChar ':' = false := by decide
  have htake := takeWhile_append_cons hstop cs rest
  have hdrop := dropWhile_append_cons hstop cs rest
  cases cs with
  | nil => cases h
  | cons first cs =>
      rw [List.cons_append] at h htake hdrop
      simp only [splitScheme, htake, hdrop] at h
      split at h
      · cases h
      cases hbehind : (first :: cs).dropWhile isSchemeChar with
      | nil =>
          have hwhole := List.takeWhile_append_dropWhile (p := isSchemeChar) (l := first :: cs)
          rw [hbehind, List.append_nil] at hwhole
          rw [hbehind, hwhole] at h
          exact (Option.some.inj h).symm
      | cons c behind =>
          have hmem : c ∈ first :: cs :=
            (List.dropWhile_suffix isSchemeChar).subset
              (by rw [hbehind]; exact List.mem_cons_self ..)
          rw [hbehind] at h
          split at h
          · rename_i heq
            cases heq
            exact absurd hmem hcolon
          · cases h

/-- A text of a letter and scheme characters is a scheme in front of a colon. -/
theorem splitScheme_append_colon {first : Char} (hfirst : isLetter first = true)
    (hcs : ∀ c ∈ first :: cs, isSchemeChar c = true) (rest : List Char) :
    splitScheme (first :: cs ++ ':' :: rest) = some (lowerCase (first :: cs), rest) := by
  have hstop : ∀ c ∈ (':' :: rest).head?, isSchemeChar c = false := by
    rintro c hc
    cases hc
    decide
  have htake := Text.takeWhile_append_eq hcs hstop
  have hdrop := Text.dropWhile_append_eq hcs hstop
  rw [List.cons_append] at htake hdrop ⊢
  simp only [splitScheme, htake, hdrop, hfirst, Bool.not_true, Bool.false_eq_true, if_false]
  rfl

/-- A URL with an authority has the scheme that was read. -/
theorem scheme_of_parseAuthority (h : parseAuthority scheme kind cs = .ok url) :
    url.scheme = scheme := by
  simp only [parseAuthority_eq] at h
  split at h
  · cases h
  split at h
  · cases h
  obtain ⟨host, -, h⟩ := exists_of_bind h
  split at h
  · cases h
  obtain ⟨⟨port, rest⟩, -, h⟩ := exists_of_bind h
  dsimp only at h
  split at h
  · cases h
  · cases h
    rfl

/-- A URL of a file has the scheme of files. -/
theorem scheme_of_parseFile (h : parseFile cs = .ok url) : url.scheme = "file" := by
  rw [parseFile_eq] at h
  split at h
  · simp only [parseShare] at h
    split at h
    · cases h
      rfl
    · obtain ⟨host, -, h⟩ := exists_of_bind h
      cases h
      rfl
  · cases h
    rfl

/-- The scheme of a URL is that of its text. -/
theorem splitScheme_of_parse (h : parse text = .ok url) :
    ∃ rest, splitScheme (visibleText text) = some (url.scheme, rest) := by
  unfold parse at h
  split at h
  · cases h
  · rename_i scheme rest hsplit
    have hscheme : url.scheme = scheme := by
      split at h
      · exact scheme_of_parseAuthority h
      · rename_i hkind
        have hfile : scheme = "file" := by
          unfold schemeKind at hkind
          split at hkind
          · cases hkind
          · split at hkind
            · assumption
            · cases hkind
        rw [scheme_of_parseFile h, hfile]
      · split at h
        · exact scheme_of_parseAuthority h
        · cases h
          rfl
    exact ⟨rest, by rw [hsplit, hscheme]⟩

/-- Behind a scheme with two slashes the authority is read. A special scheme may have more of
them. -/
theorem parse_eq_parseAuthority {slashes : List Char}
    (hsplit : splitScheme (visibleText text) = some (scheme, '/' :: '/' :: (slashes ++ cs)))
    (hkind : schemeKind scheme = kind) (hfile : kind ≠ .file)
    (hslashes : ∀ c ∈ slashes, kind = .special ∧ (c = '/' ∨ c = '\\'))
    (hcs : kind = .special → ∀ c ∈ cs.head?, c ≠ '/' ∧ c ≠ '\\') :
    parse text = parseAuthority scheme kind cs := by
  simp only [parse, hsplit, hkind]
  cases kind with
  | special =>
      -- The slashes that are dropped are all in front of the authority, the first two among them.
      have hfront : ∀ c ∈ '/' :: '/' :: slashes, (c == '/' || c == '\\') = true := by
        intro c hc
        simp only [List.mem_cons] at hc
        rcases hc with rfl | rfl | hmem
        · rfl
        · rfl
        · rcases (hslashes c hmem).2 with rfl | rfl
          all_goals rfl
      have hrest : ∀ c ∈ cs.head?, (c == '/' || c == '\\') = false := by
        intro c hc
        obtain ⟨hslash, hback⟩ := hcs rfl c hc
        simp [hslash, hback]
      have hdrop := Text.dropWhile_append_eq hfront hrest
      simp only [List.cons_append] at hdrop
      rw [hdrop]
  | file => exact absurd rfl hfile
  | other =>
      have hnone : slashes = [] := by
        refine List.eq_nil_iff_forall_not_mem.2 fun c hc => ?_
        cases (hslashes c hc).1
      rw [hnone, List.nil_append]

end MalwareScan.Url
