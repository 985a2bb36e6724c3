import MalwareScan.Proofs.Net.AddressTexts
import MalwareScan.Proofs.Url.Marks
import MalwareScan.Proofs.Url.Names

/-!
# Texts of hosts

A host is read from a text without any of the characters that end it, or from an address in
brackets (`isHostText_of_hostOf?`). Its normal form has no character that is forbidden in hosts
but the colons and the brackets of an address (`eq_colon_of_mem_plainText`).
-/

namespace MalwareScan.Url

open Net (IsAddressText isAddressChar)

variable {cs rest : List Char} {c : Char} {host : Host} {kind : SchemeKind}

/-! ## Written hosts -/

/-- The characters that stand in no host, but for the brackets and the colons of an address. -/
def delimiters : List Char :=
  ['\t', '\n', '\r', '#', '/', ':', '?', '@', '[', '\\', ']']

/-- A text that can be read as a host: it has none of these characters, or it is an address in
brackets. -/
def IsHostText (cs : List Char) : Prop :=
  (∀ c ∈ cs, c ∉ delimiters) ∨ ∃ inner, cs = '[' :: (inner ++ [']']) ∧ IsAddressText inner

/-- What a text is that is read as a host: an address in brackets, a text that is kept behind a
scheme that is not special, or a domain name, which may stand for an IPv4 address. -/
inductive ReadAs (kind : SchemeKind) (cs : List Char) : Host → Prop
  | address {inner : List Char} {ip : Net.Ipv6} (hcs : cs = '[' :: (inner ++ [']']))
      (hip : Net.Ipv6.parse? inner = some ip) : ReadAs kind cs (.v6 ip)
  | kept (hkind : kind = .other) (hcs : ∀ c ∈ cs, isForbiddenInHost c = false) :
      ReadAs kind cs (.name (String.ofList (percentEncode EncodeSet.controls cs)))
  | number {name : List Char} {ip : Net.Ipv4}
      (hname : Domain.toAscii? (percentDecode (Text.Utf8.encode (String.ofList cs))) = some name) :
      ReadAs kind cs (.v4 ip)
  | domain {name : List Char}
      (hname : Domain.toAscii? (percentDecode (Text.Utf8.encode (String.ofList cs))) = some name)
      (hne : name ≠ []) : ReadAs kind cs (.name (String.ofList name))

/-- A text in brackets is read as an address. -/
theorem readAs_of_bracketHost? (hhead : cs.head? = some '[') (h : bracketHost? cs = .ok host) :
    ReadAs kind cs host := by
  rw [bracketHost?] at h
  split at h
  · cases h
  · rename_i hlast
    split at h
    · rename_i ip hip
      cases h
      obtain ⟨front, rfl⟩ := List.getLast?_eq_some_iff.1 (Decidable.of_not_not hlast)
      cases front with
      | nil => cases hhead
      | cons first inner =>
          obtain rfl : first = '[' := Option.some.inj hhead
          rw [List.cons_append, List.drop_one, List.tail_cons, List.dropLast_concat] at hip
          exact .address rfl hip
    · cases h

/-- Whatever is read as a host is one of these. -/
theorem readAs_of_hostOf? (h : hostOf? kind cs = .ok host) : ReadAs kind cs host := by
  rw [hostOf?] at h
  split at h
  · rename_i hkind
    rw [opaqueHost?] at h
    split at h
    · exact readAs_of_bracketHost? ‹_› h
    · split at h
      · cases h
      · rename_i hallowed
        cases h
        refine .kept hkind fun c hc => Bool.eq_false_iff.2 fun hforbidden => ?_
        exact hallowed (List.any_eq_true.2 ⟨c, hc, hforbidden⟩)
  · rw [specialHost?] at h
    split at h
    · exact readAs_of_bracketHost? ‹_› h
    · split at h
      · cases h
      · cases h
      · rename_i name hne hname
        split at h
        · split at h
          · cases h
            exact .number hname
          · cases h
        · cases h
          exact .domain hname hne

/-- No character of a domain name is a separator. -/
theorem not_isSeparator_of_toAscii? {name : List Char}
    (h : Domain.toAscii? (percentDecode (Text.Utf8.encode (String.ofList cs))) = some name)
    (hc : c ∈ cs) : Domain.isSeparator c = false := by
  refine Bool.eq_false_iff.2 fun hseparator => ?_
  rw [Domain.toAscii?_eq_none_of_mem hseparator hc] at h
  cases h

/-- Whatever is read as a host is the text of one. -/
theorem isHostText_of_hostOf? (h : hostOf? kind cs = .ok host) : IsHostText cs := by
  have hdelimiters : ∀ c ∈ delimiters, isForbiddenInHost c = true ∧ Domain.isSeparator c = true :=
    Text.forall_of_all (by decide)
  have hname {name : List Char}
      (h : Domain.toAscii? (percentDecode (Text.Utf8.encode (String.ofList cs))) = some name) :
      IsHostText cs := by
    refine .inl fun c hc hmem => ?_
    cases (hdelimiters c hmem).2.symm.trans (not_isSeparator_of_toAscii? h hc)
  cases readAs_of_hostOf? h with
  | address hcs hip => exact .inr ⟨_, hcs, Net.Ipv6.isAddressText_of_parse? hip⟩
  | kept _ hcs =>
      refine .inl fun c hc hmem => ?_
      cases (hdelimiters c hmem).1.symm.trans (hcs c hc)
  | number hascii => exact hname hascii
  | domain hascii => exact hname hascii

/-- The delimiters of a host are colons and brackets. -/
theorem IsHostText.mem_of_mem_delimiters (h : IsHostText cs) (hc : c ∈ cs) (hmem : c ∈ delimiters) :
    c ∈ [':', '[', ']'] := by
  have haddress : ∀ c ∈ delimiters, isAddressChar c = true → c = ':' :=
    Text.forall_of_all (by decide)
  rcases h with hplain | ⟨inner, rfl, hinner⟩
  · exact absurd hmem (hplain c hc)
  · simp only [List.mem_cons, List.mem_append, List.not_mem_nil, or_false] at hc ⊢
    rcases hc with rfl | hc | rfl
    · exact .inr (.inl rfl)
    · exact .inl (haddress c hmem (hinner c hc))
    · exact .inr (.inr rfl)

/-- So the other delimiters are not in a host. -/
theorem IsHostText.notMem (h : IsHostText cs) (hmem : c ∈ delimiters)
    (hother : c ∉ [':', '[', ']']) :
    c ∉ cs :=
  fun hc => hother (h.mem_of_mem_delimiters hc hmem)

/-- What ends the authority is one of four characters. -/
theorem mem_of_endsAuthority (h : endsAuthority kind c = true) : c ∈ ['/', '?', '#', '\\'] := by
  simp only [endsAuthority, Bool.or_eq_true, beq_iff_eq, Bool.and_eq_true] at h
  rcases h with ((rfl | rfl) | rfl) | ⟨-, rfl⟩
  all_goals decide

/-- No character that ends the authority is in a host. -/
theorem IsHostText.not_endsAuthority (h : IsHostText cs) (hc : c ∈ cs) (kind : SchemeKind) :
    endsAuthority kind c = false := by
  have hends : ∀ c ∈ ['/', '?', '#', '\\'], c ∈ delimiters ∧ c ∉ [':', '[', ']'] :=
    Text.forall_of_all (by decide)
  refine Bool.eq_false_iff.2 fun hc' => ?_
  have hmem := hends c (mem_of_endsAuthority hc')
  exact h.notMem hmem.1 hmem.2 hc

/-- Behind a special scheme no control and no space is in a host. -/
theorem lt_of_mem_of_hostOf? (h : hostOf? kind cs = .ok host) (hkind : kind ≠ .other)
    (hc : c ∈ cs) :
    0x20 < c.toNat := by
  have hlow : ∀ n ≤ 0x20, isAddressChar (Char.ofNat n) = false ∧
      Domain.isSeparator (Char.ofNat n) = true := by decide
  refine Nat.lt_of_not_le fun hle => ?_
  have hother := hlow c.toNat hle
  rw [Char.ofNat_toNat] at hother
  cases readAs_of_hostOf? h with
  | address hcs hip =>
      rw [hcs, List.mem_cons, List.mem_append, List.mem_singleton] at hc
      rcases hc with rfl | hinner | rfl
      · exact absurd hle (by decide)
      · cases hother.1.symm.trans (Net.Ipv6.isAddressText_of_parse? hip c hinner)
      · exact absurd hle (by decide)
  | kept hkept => exact hkind hkept
  | number hname => cases hother.2.symm.trans (not_isSeparator_of_toAscii? hname hc)
  | domain hname => cases hother.2.symm.trans (not_isSeparator_of_toAscii? hname hc)

/-! ## Where a host ends -/

/-- A host ends in front of this text. -/
def EndsHost (kind : SchemeKind) (rest : List Char) : Prop :=
  ∀ c ∈ rest.head?, endsAuthority kind c = true ∨ c = ':'

/-- Nothing of it belongs to the host. -/
theorem EndsHost.hostLength_eq (h : EndsHost kind rest) : hostLength kind false rest = 0 := by
  cases rest with
  | nil => rfl
  | cons c rest =>
      rw [hostLength, if_pos]
      rcases h c rfl with hends | rfl
      · rw [hends]
        rfl
      · exact Bool.or_true _

/-- Characters that neither end a host nor are brackets are part of it. -/
theorem hostLength_append_of {inBrackets : Bool}
    (h : ∀ c ∈ cs, endsAuthority kind c = false ∧ c ∉ ['[', ']'] ∧ (c = ':' → inBrackets = true)) :
    hostLength kind inBrackets (cs ++ rest) = cs.length + hostLength kind inBrackets rest := by
  induction cs with
  | nil => simp
  | cons c cs ih =>
      obtain ⟨⟨hends, hbracket, hcolon⟩, hcs⟩ := List.forall_mem_cons.1 h
      simp only [List.mem_cons, List.not_mem_nil, or_false, not_or] at hbracket
      have hstays : (c == ':' && !inBrackets) = false := by
        rw [Bool.and_eq_false_imp, beq_iff_eq, Bool.not_eq_false']
        exact hcolon
      simp only [List.cons_append, hostLength, hends, hstays, beq_eq_false_iff_ne.2 hbracket.1,
        beq_eq_false_iff_ne.2 hbracket.2, ih hcs, List.length_cons, Bool.or_self,
        Bool.false_eq_true, if_false]
      omega

/-- In front of such a text the whole host is found. -/
theorem IsHostText.hostLength_append (h : IsHostText cs) (hrest : EndsHost kind rest) :
    hostLength kind false (cs ++ rest) = cs.length := by
  have hends := fun c hc => h.not_endsAuthority (c := c) hc kind
  rcases h with hplain | ⟨inner, rfl, hinner⟩
  · have hbrackets : ∀ c ∈ ['[', ']'], c ∈ delimiters := Text.forall_of_all (by decide)
    have hchars : ∀ c ∈ cs,
        endsAuthority kind c = false ∧ c ∉ ['[', ']'] ∧ (c = ':' → false = true) := by
      refine fun c hc => ⟨hends c hc, fun hmem => hplain c hc (hbrackets c hmem), ?_⟩
      rintro rfl
      exact absurd (by decide) (hplain _ hc)
    rw [hostLength_append_of hchars, hrest.hostLength_eq, Nat.add_zero]
  · -- A colon is part of the host up to the closing bracket.
    have haddress : ∀ c ∈ ['[', ']'], isAddressChar c = false := Text.forall_of_all (by decide)
    have hchars : ∀ c ∈ inner,
        endsAuthority kind c = false ∧ c ∉ ['[', ']'] ∧ (c = ':' → true = true) := by
      refine fun c hc => ⟨hends c (by simp [hc]), fun hmem => ?_, fun _ => rfl⟩
      cases (haddress c hmem).symm.trans (hinner c hc)
    have hopen := hends '[' (by simp)
    have hclose := hends ']' (by simp)
    simp [hostLength, hopen, hclose, hostLength_append_of hchars, hrest.hostLength_eq]

/-! ## Normal forms of hosts -/

/-- The text of a host without brackets. -/
def Host.plainText : Host → String
  | name text => text
  | v4 ip => ip.text
  | v6 ip => ip.text

/-- In a URL an address may stand in brackets. -/
theorem Host.text_eq (host : Host) :
    host.text = host.plainText ∨ host.text = "[" ++ host.plainText ++ "]" := by
  cases host with
  | name | v4 => exact .inl rfl
  | v6 => exact .inr rfl

/-- A character of addresses that is forbidden in names is a colon. -/
theorem eq_colon_of_isAddressChar (h : isAddressChar c = true) (hc : isForbiddenInHost c = true) :
    c = ':' := by
  have hforbidden : ∀ c ∈ ['\x00', '\t', '\n', '\r', ' ', '#', '/', ':', '<', '>', '?', '@', '[',
      '\\', ']', '^', '|'], isAddressChar c = true → c = ':' := Text.forall_of_all (by decide)
  exact hforbidden c (List.contains_iff_mem.1 hc) h

/-- What no domain name has, no host has. -/
theorem not_isForbiddenInHost (h : Domain.isForbidden c = false) : isForbiddenInHost c = false := by
  have hforbidden : ∀ c ∈ ['\x00', '\t', '\n', '\r', ' ', '#', '/', ':', '<', '>', '?', '@', '[',
      '\\', ']', '^', '|'], Domain.isForbidden c = true := Text.forall_of_all (by decide)
  refine Bool.eq_false_iff.2 fun hc => ?_
  rw [hforbidden c (List.contains_iff_mem.1 hc)] at h
  cases h

/-- A percent-encoded byte is made of characters that a host may have. -/
theorem not_isForbiddenInHost_of_mem_percentByte {b : UInt8} (h : c ∈ percentByte b) :
    isForbiddenInHost c = false := by
  have hdigits : ∀ n < 16, isForbiddenInHost (Nat.digitChar n).toUpper = false := by decide
  have hlt := b.toNat_lt
  simp only [percentByte, List.mem_cons, List.not_mem_nil, or_false] at h
  rcases h with rfl | rfl | rfl
  · decide
  · exact hdigits _ (by omega)
  · exact hdigits _ (by omega)

/-- Encoding adds no character that is forbidden in hosts. -/
theorem not_isForbiddenInHost_of_mem_percentEncode {set : EncodeSet}
    (h : ∀ c ∈ cs, isForbiddenInHost c = false) (hc : c ∈ percentEncode set cs) :
    isForbiddenInHost c = false := by
  simp only [percentEncode, List.mem_flatMap] at hc
  obtain ⟨d, hd, hmem⟩ := hc
  split at hmem
  · obtain ⟨b, -, hbyte⟩ := List.mem_flatMap.1 hmem
    exact not_isForbiddenInHost_of_mem_percentByte hbyte
  · rw [List.mem_singleton.1 hmem]
    exact h d hd

/-- The colons of an address are the only characters of a host that are forbidden in names. -/
theorem eq_colon_of_mem_plainText (h : hostOf? kind cs = .ok host) (hc : c ∈ host.plainText.toList)
    (hforbidden : isForbiddenInHost c = true) : c = ':' := by
  cases readAs_of_hostOf? h with
  | address => exact eq_colon_of_isAddressChar (Net.Ipv6.isAddressText_text _ c hc) hforbidden
  | number => exact eq_colon_of_isAddressChar (Net.Ipv4.isAddressText_text _ c hc) hforbidden
  | kept _ hcs =>
      rw [Host.plainText, String.toList_ofList] at hc
      cases hforbidden.symm.trans (not_isForbiddenInHost_of_mem_percentEncode hcs hc)
  | domain hname =>
      rw [Host.plainText, String.toList_ofList] at hc
      have hallowed := Domain.isAllowed_of_toAscii? hname c hc
      cases hforbidden.symm.trans (not_isForbiddenInHost hallowed)

/-! ## Empty hosts -/

/-- An IPv4 address has a text. -/
theorem v4_text_ne_empty (ip : Net.Ipv4) : ip.text ≠ "" := by
  intro h
  have hlist := congrArg String.toList h
  simp [Net.Ipv4.text, Net.Ipv4.bytes, Bytes.ofUInt32] at hlist

/-- Encoding leaves something of a character. -/
theorem percentEncode_ne_nil {set : EncodeSet} (h : cs ≠ []) : percentEncode set cs ≠ [] := by
  obtain ⟨c, cs, rfl⟩ := List.exists_cons_of_ne_nil h
  rw [percentEncode, List.flatMap_cons]
  split
  · have hbytes : Text.Utf8.encode (String.singleton c) = String.utf8EncodeChar c := by
      simp [Text.Utf8.encode_eq_flatMap]
    obtain ⟨b, bytes, heq⟩ := List.exists_cons_of_ne_nil (String.utf8EncodeChar_ne_nil (c := c))
    rw [hbytes, heq, List.flatMap_cons, percentByte]
    exact List.cons_ne_nil _ _
  · exact List.cons_ne_nil _ _

/-- A text of characters is not empty. -/
theorem ofList_ne_empty (h : cs ≠ []) : String.ofList cs ≠ "" := by
  intro heq
  have hlist := congrArg String.toList heq
  rw [String.toList_ofList] at hlist
  exact h hlist

/-- Only an empty text is an empty host. -/
theorem text_ne_empty (h : hostOf? kind cs = .ok host) (hne : cs ≠ []) : host.text ≠ "" := by
  cases readAs_of_hostOf? h with
  | address =>
      intro heq
      have hlist := congrArg String.toList heq
      simp [Host.text] at hlist
  | kept => exact ofList_ne_empty (percentEncode_ne_nil hne)
  | number => exact v4_text_ne_empty _
  | domain _ hname => exact ofList_ne_empty hname

end MalwareScan.Url
