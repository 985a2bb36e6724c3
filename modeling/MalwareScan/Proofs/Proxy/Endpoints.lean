import MalwareScan.Proofs.Url.Authorities
import MalwareScan.Proofs.Url.Schemes
import MalwareScan.Proxy.Endpoint

/-!
# Written endpoints

A proxy is written as a scheme, a host and a port, with blanks around them, with a user in front
of the host and with a path, a query or a fragment behind the port; of all these only the host has
to be there. What is read is the protocol of the scheme, the normal form of the host, and the port
that is written or, without one, that of the scheme. The main theorem is
`endpoints_are_as_written`.
-/

namespace MalwareScan.Proxy

open Text (isBlank)
open Url (Host Place SchemeKind hostOf? isOuter isShown lowerCase schemeKind)

/-! ## Spellings -/

/-- The parts of a text that states a proxy. There may be more slashes than the two behind the
scheme. -/
structure Spelling where
  scheme : Option (List Char) := none
  slashes : List Char := []
  place : Place

namespace Spelling

/-- The scheme with the colon and the two slashes behind it. -/
def schemeChars (s : Spelling) : List Char :=
  match s.scheme with
  | none => []
  | some scheme => scheme ++ schemeMark

/-- The parts one behind the other. -/
def chars (s : Spelling) : List Char :=
  s.schemeChars ++ s.slashes ++ s.place.chars

/-- The scheme that is meant. -/
def meantScheme (s : Spelling) : List Char :=
  s.scheme.getD ['h', 't', 't', 'p']

/-- Its name. -/
def schemeName (s : Spelling) : String :=
  lowerCase s.meantScheme

/-- The parts are those that stand there, behind a scheme of this form. Without a scheme nothing
in the text looks like the end of one. Only special schemes have further slashes, and then all
slashes in front of the user and the host belong to these. Blanks at the ends of the text are not
part of it. -/
structure IsProper (form : SchemeKind) (s : Spelling) : Prop where
  bare : s.scheme = none → ¬ schemeMark <:+: s.chars
  slashes : ∀ c ∈ s.slashes, form = .special ∧ (c = '/' ∨ c = '\\')
  noSlash : form = .special → ∀ c ∈ s.place.chars.head?, c ≠ '/' ∧ c ≠ '\\'
  parted : s.place.IsParted form
  head : ∀ c ∈ s.chars.head?, isBlank c = false
  last : ∀ c ∈ s.chars.getLast?, isBlank c = false

/-- Behind a scheme that is not special, a host at the end of the text does not end in a control
character. -/
def EndsVisibly (form : SchemeKind) (s : Spelling) : Prop :=
  form = .other → s.place.port = none → s.place.tail = [] →
    ∀ c ∈ s.place.host.getLast?, 0x20 < c.toNat

/-- The text with blanks around it. -/
def text (s : Spelling) (front back : List Char) : String :=
  String.ofList (front ++ s.chars ++ back)

end Spelling

/-- The schemes of proxies, with the form of their URLs, the protocol and the port. -/
inductive IsScheme : String → SchemeKind → Kind → UInt16 → Prop
  | http : IsScheme "http" .special .http 80
  | https : IsScheme "https" .special .http 443
  | socks5 : IsScheme "socks5" .other .socks5 1080
  | socks5h : IsScheme "socks5h" .other .socks5 1080

/-- The port that is meant: the written one, or that of the scheme if there are no digits. -/
def MeansPort (standard port : UInt16) (digits : Option (List Char)) : Prop :=
  match digits with
  | none | some [] => port = standard
  | some digits => Text.digitsValue digits = port.toNat

/-! ## Schemes of proxies -/

variable {s : Spelling} {name : String} {form : SchemeKind} {kind : Kind} {standard port : UInt16}
  {c : Char} {cs front back : List Char}

/-- What is known of such a scheme. -/
theorem IsScheme.schemeOf?_eq (h : IsScheme name form kind standard) :
    schemeOf? name = some (kind, standard) := by
  cases h <;> rfl

/-- No other scheme is known. -/
theorem schemeOf?_eq_none (h : ∀ form kind standard, ¬ IsScheme name form kind standard) :
    schemeOf? name = none := by
  unfold schemeOf?
  split
  · exact absurd .http (h _ _ _)
  · exact absurd .https (h _ _ _)
  · exact absurd .socks5 (h _ _ _)
  · exact absurd .socks5h (h _ _ _)
  · rfl

/-- Its URLs have this form. -/
theorem IsScheme.schemeKind_eq (h : IsScheme name form kind standard) :
    schemeKind name = form ∧ form ≠ .file := by
  cases h <;> decide

/-- It is spelled as schemes are. -/
theorem IsScheme.spelled (h : IsScheme name form kind standard) :
    (∀ d ∈ name.toList, Url.isSchemeChar d = true) ∧ name.toList.head?.any Url.isLetter = true := by
  cases h
  all_goals exact ⟨Text.forall_of_all (by decide), by decide⟩

/-- A URL leaves out no port but that of the scheme. -/
theorem IsScheme.eq_of_defaultPort? (h : IsScheme name form kind standard)
    (hport : Url.defaultPort? name = some port) : standard = port := by
  cases h <;> cases hport <;> rfl

/-- A character that is changed by lower case is a letter. -/
theorem toLower_eq_or (c : Char) : c.toLower = c ∨ c.isAlpha = true := by
  unfold Char.toLower
  split
  · rename_i hupper
    have hletter : c.isUpper = true := decide_eq_true hupper
    exact .inr (Bool.or_eq_true_iff.2 (.inl hletter))
  · exact .inl rfl

/-- A text is spelled as a scheme if it is one in lower case. -/
theorem exists_of_lowerCase (hchars : ∀ d ∈ (lowerCase cs).toList, Url.isSchemeChar d = true)
    (hhead : (lowerCase cs).toList.head?.any Url.isLetter = true) :
    ∃ first rest, cs = first :: rest ∧ Url.isLetter first = true ∧
      ∀ c ∈ cs, Url.isSchemeChar c = true := by
  rw [lowerCase, String.toList_ofList] at hchars hhead
  cases cs with
  | nil => cases hhead
  | cons first rest =>
      refine ⟨first, rest, rfl, ?_, fun c hc => ?_⟩
      · rcases toLower_eq_or first with heq | hletter
        · rwa [List.map_cons, List.head?_cons, heq] at hhead
        · exact hletter
      · rcases toLower_eq_or c with heq | hletter
        · exact heq ▸ hchars c.toLower (List.mem_map_of_mem hc)
        · simp [Url.isSchemeChar, Char.isAlphanum, hletter]

/-- A character of a scheme is seen wherever it stands. -/
theorem isShown_of_isSchemeChar (h : Url.isSchemeChar c = true) :
    isShown c = true ∧ isOuter c = false := by
  have hhidden : ∀ n ≤ 0x20, Url.isSchemeChar (Char.ofNat n) = false := by decide
  have hcontrols : ∀ c ∈ ['\t', '\n', '\r'], c.toNat ≤ 0x20 := Text.forall_of_all (by decide)
  have houter : ¬ c.toNat ≤ 0x20 := by
    intro hle
    have hother := hhidden c.toNat hle
    rw [Char.ofNat_toNat, h] at hother
    cases hother
  refine ⟨?_, decide_eq_false houter⟩
  have hnone : c ∉ ['\t', '\n', '\r'] := fun hmem => houter (hcontrols c hmem)
  simp only [List.mem_cons, List.not_mem_nil, or_false, not_or] at hnone
  simp [isShown, hnone]

/-! ## The URL of a text -/

/-- The URL that is read begins with the scheme that is meant. -/
theorem toList_urlText (h : s.IsProper form) (hfront : ∀ c ∈ front, isBlank c = true)
    (hback : ∀ c ∈ back, isBlank c = true) :
    (urlText (s.text front back)).toList =
      s.meantScheme ++ schemeMark ++ s.slashes ++ s.place.chars := by
  have htrim : Text.trim (s.text front back) = String.ofList s.chars := by
    rw [Text.trim, Spelling.text, String.toList_ofList,
      Text.trimChars_blanks hfront hback h.head h.last]
  simp only [urlText, htrim, String.toList_ofList]
  cases hscheme : s.scheme with
  | none =>
      have hbare : Text.isPart schemeMark s.chars = false :=
        Bool.eq_false_iff.2 fun hpart => h.bare hscheme (Text.isPart_iff.1 hpart)
      rw [if_neg (by rw [hbare]; decide), String.toList_append, String.toList_ofList]
      simp [Spelling.chars, Spelling.schemeChars, Spelling.meantScheme, hscheme, schemeMark]
  | some scheme =>
      have hpart : schemeMark <:+: s.chars :=
        ⟨scheme, s.slashes ++ s.place.chars,
          by simp [Spelling.chars, Spelling.schemeChars, hscheme]⟩
      rw [if_pos (Text.isPart_iff.2 hpart), String.toList_ofList]
      simp [Spelling.chars, Spelling.schemeChars, Spelling.meantScheme, hscheme]

/-- The part of the text in front of the tail is not followed by anything that is left out. -/
theorem isOuter_getLast? (h : s.IsProper form)
    (hlast : s.place.port = none → ∀ c ∈ s.place.host.getLast?, isOuter c = false) :
    ∀ c ∈ (s.meantScheme ++ schemeMark ++ s.slashes ++
      (s.place.userChars ++ s.place.host ++ s.place.portChars)).getLast?, isOuter c = false := by
  -- The last of these parts that is not empty decides.
  refine Text.getLast?_append_of (Text.getLast?_append_of ?port fun hport =>
    Text.getLast?_append_of ?host fun _ => ?user) fun _ =>
      Text.getLast?_append_of ?slashes fun _ => ?mark
  case port =>
    intro c hc
    rcases h.parted.mem_portChars (List.mem_of_getLast? hc) with rfl | hdigit
    · decide
    · exact (isShown_of_isSchemeChar (by simp [Url.isSchemeChar, Char.isAlphanum, hdigit])).2
  case host =>
    refine hlast ?_
    unfold Place.portChars at hport
    split at hport
    · assumption
    · cases hport
  case user =>
    rw [Place.userChars]
    split
    · intro c hc
      cases hc
    · intro c hc
      rw [List.getLast?_concat] at hc
      cases hc
      decide
  case slashes =>
    intro c hc
    rcases (h.slashes c (List.mem_of_getLast? hc)).2 with rfl | rfl
    all_goals decide
  case mark =>
    intro c hc
    rw [List.getLast?_append] at hc
    cases hc
    decide

/-- What is seen of the URL that is read. -/
theorem exists_visibleText_urlText (h : s.IsProper form)
    (hchars : ∀ c ∈ s.meantScheme, Url.isSchemeChar c = true) (hne : s.meantScheme ≠ [])
    (hhost : Url.IsHostText s.place.host)
    (hlast : s.place.tail = [] → s.place.port = none →
      ∀ c ∈ s.place.host.getLast?, isOuter c = false)
    (hfront : ∀ c ∈ front, isBlank c = true) (hback : ∀ c ∈ back, isBlank c = true) :
    ∃ tail, tail.head? = s.place.tail.head? ∧
      Url.visibleText (urlText (s.text front back)) =
        s.meantScheme ++ ':' :: '/' :: '/' :: (s.slashes ++ (s.place.seen tail).chars) := by
  have hscheme := fun c hc => isShown_of_isSchemeChar (hchars c hc)
  have hslashes : ∀ c ∈ s.slashes, isShown c = true := by
    intro c hc
    rcases (h.slashes c hc).2 with rfl | rfl
    all_goals rfl
  have htext : urlText (s.text front back) =
      String.ofList (s.meantScheme ++ schemeMark ++ s.slashes ++
        (s.place.userChars ++ s.place.host ++ s.place.portChars) ++ s.place.tail) := by
    rw [← String.ofList_toList (s := urlText (s.text front back)), toList_urlText h hfront hback]
    simp [Place.chars]
  have hfirst : ∀ c ∈ (s.meantScheme ++ schemeMark ++ s.slashes ++
      (s.place.userChars ++ s.place.host ++ s.place.portChars)).head?, isOuter c = false := by
    obtain ⟨first, rest, hmeant⟩ := List.exists_cons_of_ne_nil hne
    intro c hc
    rw [hmeant] at hc
    obtain rfl : first = c := Option.some.inj hc
    exact (hscheme first (by rw [hmeant]; exact List.mem_cons_self ..)).2
  have hends : ∀ c ∈ ['/', '?', '#', '\\'], isOuter c = false ∧ isShown c = true :=
    Text.forall_of_all (by decide)
  obtain ⟨tail, htail, hvisible⟩ := Url.exists_visibleText_eq hfirst
    (fun hnil => isOuter_getLast? h (hlast hnil))
    (fun c hc => hends c (Url.mem_of_endsAuthority (h.parted.tail c hc)))
  refine ⟨tail, htail, ?_⟩
  rw [htext, hvisible, List.filter_append, List.append_assoc, h.parted.filter_chars hhost,
    List.filter_append, List.filter_append, List.filter_eq_self.2 fun c hc => (hscheme c hc).1,
    List.filter_eq_self.2 hslashes]
  simp [schemeMark, isShown]

/-- What is read behind the scheme are the parts of the text, without what is left out of the user
and of the tail. -/
theorem exists_parse_urlText (h : s.IsProper form)
    (hscheme : IsScheme s.schemeName form kind standard)
    (hhost : Url.IsHostText s.place.host)
    (hlast : s.place.tail = [] → s.place.port = none →
      ∀ c ∈ s.place.host.getLast?, isOuter c = false)
    (hfront : ∀ c ∈ front, isBlank c = true) (hback : ∀ c ∈ back, isBlank c = true) :
    ∃ tail, tail.head? = s.place.tail.head? ∧
      Url.parse (urlText (s.text front back)) =
        Url.parseAuthority s.schemeName form (s.place.seen tail).chars := by
  obtain ⟨hchars, hhead⟩ := hscheme.spelled
  obtain ⟨hform, hfile⟩ := hscheme.schemeKind_eq
  obtain ⟨first, rest, hmeant, hletter, hspelled⟩ := exists_of_lowerCase hchars hhead
  obtain ⟨tail, htail, hvisible⟩ := exists_visibleText_urlText h hspelled
    (by rw [hmeant]; exact List.cons_ne_nil _ _) hhost hlast hfront hback
  have hsplit : Url.splitScheme (Url.visibleText (urlText (s.text front back))) =
      some (s.schemeName, '/' :: '/' :: (s.slashes ++ (s.place.seen tail).chars)) := by
    rw [hvisible, Spelling.schemeName, hmeant]
    exact Url.splitScheme_append_colon hletter (hmeant ▸ hspelled) _
  refine ⟨tail, htail, Url.parse_eq_parseAuthority hsplit hform hfile h.slashes ?_⟩
  rintro rfl
  exact h.parted.noSlash_seen htail (h.noSlash rfl)

/-! ## What is made of the URL -/

variable {text : String} {login : Option Login} {url : Url} {host : Host}

/-- A host that has no brackets of its own is left without those around it. -/
theorem bareHost_text (h : ∀ c ∈ host.plainText.toList, c ≠ '[' ∧ c ≠ ']') :
    bareHost host.text = host.plainText := by
  have hfront : ∀ c ∈ host.plainText.toList.head?, (c == '[') = false :=
    fun c hc => beq_eq_false_iff_ne.2 (h c (List.mem_of_head? hc)).1
  have hback : ∀ c ∈ host.plainText.toList.getLast?, (c == ']') = false :=
    fun c hc => beq_eq_false_iff_ne.2 (h c (List.mem_of_getLast? hc)).2
  rw [← String.ofList_toList (s := host.plainText), bareHost]
  congr 1
  rcases host.text_eq with heq | heq
  · have hdrop := Text.dropWhile_append_eq (List.forall_mem_nil _) hfront
    rw [List.nil_append] at hdrop
    rw [heq, hdrop, Text.dropLastWhile_eq_self hback]
  · have htext : host.text.toList = ['['] ++ (host.plainText.toList ++ [']']) := by simp [heq]
    have hinner : ∀ c ∈ (host.plainText.toList ++ [']']).head?, (c == '[') = false := by
      intro c hc
      cases hplain : host.plainText.toList with
      | nil =>
          rw [hplain] at hc
          cases hc
          decide
      | cons first rest =>
          rw [hplain] at hc hfront
          exact hfront c hc
    rw [htext, Text.dropWhile_append_eq (by simp) hinner, Text.dropLastWhile_append hback]
    exact List.append_nil _

/-- What is read of the host, the scheme and the port of a URL. -/
theorem parse_eq_ok (hurl : Url.parse (urlText text) = .ok url)
    (hscheme : schemeOf? url.scheme = some (kind, standard)) (hhost : url.host = some host)
    (hne : host.text ≠ "") :
    Endpoint.parse text login =
      .ok { kind, host := bareHost host.text, port := url.port.getD standard, login } := by
  have hempty : host.text.isEmpty = false := by
    rw [Bool.eq_false_iff, Ne, String.isEmpty_iff]
    exact hne
  simp only [Endpoint.parse, hurl, hscheme, hhost, hempty, Bool.false_eq_true, if_false]

/-- Without a host nothing is read of a URL. -/
theorem exists_parse_eq_error (hurl : ∀ url, Url.parse (urlText text) = .ok url →
    schemeOf? url.scheme = none ∨ url.host = none) :
    ∃ fault, Endpoint.parse text login = .error fault := by
  cases hparse : Url.parse (urlText text) with
  | error fault => exact ⟨.url fault, by simp only [Endpoint.parse, hparse]⟩
  | ok url =>
      rcases hurl url hparse with hscheme | hhost
      · exact ⟨.scheme url.scheme, by simp only [Endpoint.parse, hparse, hscheme]⟩
      · cases hscheme : schemeOf? url.scheme with
        | none => exact ⟨.scheme url.scheme, by simp only [Endpoint.parse, hparse, hscheme]⟩
        | some => exact ⟨.noHost, by simp only [Endpoint.parse, hparse, hscheme, hhost]⟩

/-- The port that is read is the one that is meant, also where the URL leaves it out. -/
theorem exists_portOf? (place : Place) (h : place.IsParted form)
    (hscheme : IsScheme name form kind standard) (hport : MeansPort standard port place.port) :
    ∃ shown, Url.portOf? name (place.portChars ++ place.tail) = .ok (shown, place.tail) ∧
      shown.getD standard = port := by
  unfold MeansPort at hport
  split at hport
  · rename_i hnone
    exact ⟨none, h.portOf?_none hnone, hport.symm⟩
  · rename_i hempty
    -- Without digits zero is read, but not shown.
    refine ⟨none, ?_, hport.symm⟩
    rw [h.portOf?_some hempty (show Text.digitsValue [] = (0 : UInt16).toNat from rfl),
      Place.shownPort, if_pos (.inl rfl)]
  · rename_i digits hne hdigits
    refine ⟨_, h.portOf?_some hdigits hport, ?_⟩
    rw [Place.shownPort]
    split
    · rename_i hown
      exact hscheme.eq_of_defaultPort? (hown.resolve_left hne)
    · rfl

/-! ## Whole texts -/

/-- A text with a host states a proxy. -/
theorem parse_text (h : s.IsProper form) (hscheme : IsScheme s.schemeName form kind standard)
    (hne : s.place.host ≠ []) (hhost : hostOf? form s.place.host = .ok host)
    (hport : MeansPort standard port s.place.port) (hends : s.EndsVisibly form)
    (hfront : ∀ c ∈ front, isBlank c = true) (hback : ∀ c ∈ back, isBlank c = true) :
    Endpoint.parse (s.text front back) login =
      .ok { kind, host := host.plainText, port, login } := by
  have htext := Url.isHostText_of_hostOf? hhost
  have hlast : s.place.tail = [] → s.place.port = none →
      ∀ c ∈ s.place.host.getLast?, isOuter c = false := by
    intro htail hnone c hc
    refine decide_eq_false (Nat.not_le.2 ?_)
    by_cases hother : form = .other
    · exact hends hother hnone htail c hc
    · exact Url.lt_of_mem_of_hostOf? hhost hother (List.mem_of_getLast? hc)
  obtain ⟨tail, htail, hurl⟩ := exists_parse_urlText h hscheme htext hlast hfront hback
  have hparted := h.parted.seen htail
  obtain ⟨shown, hshown, hmeant⟩ := exists_portOf? (s.place.seen tail) hparted hscheme hport
  obtain ⟨url, hparse, hname, hfound, hurlPort⟩ := hparted.parseAuthority_chars hhost hne hshown
  have hbrackets : ∀ c ∈ ['[', ']'], Url.isForbiddenInHost c = true ∧ c ≠ ':' :=
    Text.forall_of_all (by decide)
  have hplain : ∀ c ∈ host.plainText.toList, c ∉ ['[', ']'] := fun c hc hmem =>
    (hbrackets c hmem).2 (Url.eq_colon_of_mem_plainText hhost hc (hbrackets c hmem).1)
  rw [parse_eq_ok (hurl.trans hparse) (hname ▸ hscheme.schemeOf?_eq) hfound
      (Url.text_ne_empty hhost hne), hurlPort, hmeant, bareHost_text]
  intro c hc
  simpa using hplain c hc

/-- A text without a host states none. -/
theorem exists_error_of_nil (h : s.IsProper form)
    (hscheme : IsScheme s.schemeName form kind standard)
    (hnil : s.place.host = []) (hfront : ∀ c ∈ front, isBlank c = true)
    (hback : ∀ c ∈ back, isBlank c = true) :
    ∃ fault, Endpoint.parse (s.text front back) login = .error fault := by
  have htext : Url.IsHostText s.place.host := by
    rw [hnil]
    exact .inl (List.forall_mem_nil _)
  obtain ⟨tail, htail, hurl⟩ := exists_parse_urlText h hscheme htext
    (fun _ _ c hc => by rw [hnil] at hc; cases hc) hfront hback
  refine exists_parse_eq_error fun url hparse => .inr ?_
  rw [hurl] at hparse
  exact (h.parted.seen htail).host_eq_none_of_parseAuthority hscheme.schemeKind_eq.2 hnil hparse

/-- What is seen of the URL that is read begins with what stands in front of a colon and two
slashes. -/
theorem exists_visibleText_of_scheme {scheme : List Char}
    (hvisible : ∀ c ∈ scheme, isBlank c = false ∧ 0x20 < c.toNat)
    (hfront : ∀ c ∈ front, isBlank c = true) (rest : List Char) :
    ∃ behind, Url.visibleText (urlText (String.ofList (front ++ (scheme ++ schemeMark ++ rest)))) =
      scheme ++ ':' :: behind := by
  have hhead : ∀ p : Char → Bool, p ':' = false → (∀ c ∈ scheme, p c = false) → ∀ tail,
      ∀ c ∈ (scheme ++ schemeMark ++ tail).head?, p c = false := by
    intro p hp hscheme tail c hc
    cases scheme with
    | nil =>
        cases hc
        exact hp
    | cons first scheme => exact hscheme c (List.mem_of_head? hc)
  have hmark : ∀ p : Char → Bool, p '/' = false →
      ∀ c ∈ (scheme ++ schemeMark).getLast?, p c = false := by
    intro p hp c hc
    rw [List.getLast?_append] at hc
    cases hc
    exact hp
  have houter : ∀ c ∈ scheme, isOuter c = false :=
    fun c hc => decide_eq_false (Nat.not_le.2 (hvisible c hc).2)
  have hshown : scheme.filter isShown = scheme := by
    have hcontrols : ∀ c ∈ ['\t', '\n', '\r'], c.toNat ≤ 0x20 := Text.forall_of_all (by decide)
    exact Url.filter_isShown_eq_self fun c hc hmem =>
      Nat.not_le.2 (hvisible c hc).2 (hcontrols c hmem)
  -- Neither of the two ways to shorten a text at its ends reaches the scheme.
  have htrim : Text.trim (String.ofList (front ++ (scheme ++ schemeMark ++ rest))) =
      String.ofList (scheme ++ schemeMark ++ Text.dropLastWhile isBlank rest) := by
    have hbegins := hhead isBlank (by decide) (fun c hc => (hvisible c hc).1) rest
    rw [Text.trim, String.toList_ofList, Text.trimChars, Text.dropWhile_append_eq hfront hbegins,
      Text.dropLastWhile_append (hmark isBlank (by decide))]
  have hpart : schemeMark <:+: scheme ++ schemeMark ++ Text.dropLastWhile isBlank rest :=
    ⟨scheme, _, rfl⟩
  simp only [urlText, htrim, String.toList_ofList, if_pos (Text.isPart_iff.2 hpart)]
  rw [Url.visibleText_append (hhead isOuter (by decide) houter _) (hmark isOuter (by decide)),
    List.filter_append, hshown, List.append_assoc]
  exact ⟨_, rfl⟩

/-- A text with any other scheme states none. -/
theorem exists_error_of_scheme {scheme : List Char} (hcolon : ':' ∉ scheme)
    (hvisible : ∀ c ∈ scheme, isBlank c = false ∧ 0x20 < c.toNat)
    (hscheme : schemeOf? (lowerCase scheme) = none) (hfront : ∀ c ∈ front, isBlank c = true)
    (rest : List Char) :
    ∃ fault, Endpoint.parse (String.ofList (front ++ (scheme ++ schemeMark ++ rest))) login =
      .error fault := by
  obtain ⟨behind, hseen⟩ := exists_visibleText_of_scheme hvisible hfront rest
  refine exists_parse_eq_error fun url hparse => .inl ?_
  obtain ⟨found, hsplit⟩ := Url.splitScheme_of_parse hparse
  rw [hseen] at hsplit
  rw [(Prod.mk.inj (Url.eq_of_splitScheme hcolon hsplit)).1]
  exact hscheme

/-- The address of this machine behind a user with an at sign, with the port that URLs of the
scheme leave out. -/
def localProxy : Spelling where
  scheme := some ['H', 't', 't', 'p', 's']
  place :=
    { user := some ['a', ':', '@'], host := ['[', ':', ':', '1', ']']
      port := some ['4', '4', '3'], tail := ['?', '#'] }

/-- Its parts are those that stand there. -/
theorem isProper_localProxy : localProxy.IsProper .special where
  bare h := by cases h
  slashes := List.forall_mem_nil _
  noSlash _ c hc := by
    cases hc
    decide
  parted :=
    { user := by
        intro user huser
        cases huser
        exact Text.forall_of_all (by decide)
      port := by
        intro digits hdigits
        cases hdigits
        exact Text.forall_of_all (by decide)
      tail := by
        intro c hc
        cases hc
        decide }
  head c hc := by
    cases hc
    decide
  last c hc := by
    cases hc
    decide

end MalwareScan.Proxy
