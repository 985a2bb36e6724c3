import MalwareScan.Proofs.Url.Hosts
import MalwareScan.Proofs.Url.Schemes

/-!
# Written authorities

The text behind the slashes of a URL names a user, a host and a port, of which only the host has
to be there, and a path, a query and a fragment follow. Written one behind the other, the parts
are found again: `parseAuthority_chars` for a text with a host, `host_eq_none_of_parseAuthority`
for one without.
-/

namespace MalwareScan.Url

/-- The parts of a text behind the slashes of a URL. The tail is the path with all that follows
it. -/
structure Place where
  user : Option (List Char) := none
  host : List Char
  port : Option (List Char) := none
  tail : List Char := []

namespace Place

/-- The user name and the password, in front of an at sign. -/
def userChars (place : Place) : List Char :=
  match place.user with
  | none => []
  | some user => user ++ ['@']

/-- The port, behind a colon. -/
def portChars (place : Place) : List Char :=
  match place.port with
  | none => []
  | some digits => ':' :: digits

/-- The parts one behind the other. -/
def chars (place : Place) : List Char :=
  place.userChars ++ place.host ++ place.portChars ++ place.tail

/-- No part but the host has a character that belongs to the next one. -/
structure IsParted (kind : SchemeKind) (place : Place) : Prop where
  user : ∀ user, place.user = some user → ∀ c ∈ user, endsAuthority kind c = false
  port : ∀ digits, place.port = some digits → ∀ c ∈ digits, c.isDigit = true
  tail : ∀ c ∈ place.tail.head?, endsAuthority kind c = true

variable {place : Place} {kind : SchemeKind} {scheme : String} {host : Host} {c : Char}

/-- A digit does not end the authority. -/
theorem not_endsAuthority_of_isDigit (h : c.isDigit = true) : endsAuthority kind c = false := by
  have hends : ∀ c ∈ ['/', '?', '#', '\\'], c.isDigit = false := Text.forall_of_all (by decide)
  refine Bool.eq_false_iff.2 fun hc => ?_
  rw [hends c (mem_of_endsAuthority hc)] at h
  cases h

/-- The characters of the port. -/
theorem IsParted.mem_portChars (h : place.IsParted kind) (hc : c ∈ place.portChars) :
    c = ':' ∨ c.isDigit = true := by
  rw [portChars] at hc
  split at hc
  · cases hc
  · rename_i digits hdigits
    exact (List.mem_cons.1 hc).imp_right (h.port digits hdigits c)

/-- The authority ends where the tail begins. -/
theorem IsParted.not_endsAuthority (h : place.IsParted kind) (hhost : IsHostText place.host)
    (hc : c ∈ place.userChars ++ place.host ++ place.portChars) : endsAuthority kind c = false := by
  simp only [List.mem_append] at hc
  rcases hc with (huser | hhost') | hport
  · rw [userChars] at huser
    split at huser
    · cases huser
    · rename_i user heq
      rcases List.mem_append.1 huser with hmem | hat
      · exact h.user user heq c hmem
      · rw [List.mem_singleton.1 hat]
        cases kind <;> rfl
  · exact hhost.not_endsAuthority hhost' kind
  · rcases h.mem_portChars hport with rfl | hdigit
    · cases kind <;> rfl
    · exact not_endsAuthority_of_isDigit hdigit

/-- There is no at sign behind the user. -/
theorem IsParted.at_notMem (h : place.IsParted kind) (hhost : IsHostText place.host) :
    '@' ∉ place.host ++ place.portChars := by
  intro hc
  rcases List.mem_append.1 hc with hmem | hport
  · exact hhost.notMem (by decide) (by decide) hmem
  · rcases h.mem_portChars hport with heq | hdigit
    · cases heq
    · cases hdigit

/-- The last at sign of a text is the first one from its end. -/
theorem reverse_takeWhile_at {back : List Char} (h : '@' ∉ back) (front : List Char) :
    ((front ++ '@' :: back).reverse.takeWhile fun c => c != '@').reverse = back := by
  have hreverse : (front ++ '@' :: back).reverse = back.reverse ++ '@' :: front.reverse := by simp
  have hother : ∀ c ∈ back.reverse, (c != '@') = true := by
    intro c hc
    rw [bne_iff_ne]
    rintro rfl
    exact h (List.mem_reverse.1 hc)
  rw [hreverse, Text.takeWhile_append_eq hother (by simp), List.reverse_reverse]

/-- The user is found. -/
theorem IsParted.splitUser_chars (h : place.IsParted kind) (hhost : IsHostText place.host) :
    splitUser kind place.chars = (place.user, place.host ++ place.portChars ++ place.tail) := by
  have hfront : ∀ c ∈ place.userChars ++ place.host ++ place.portChars,
      (!endsAuthority kind c) = true := fun c hc => by rw [h.not_endsAuthority hhost hc]; rfl
  have htail : ∀ c ∈ place.tail.head?, (!endsAuthority kind c) = false :=
    fun c hc => by rw [h.tail c hc]; rfl
  have htake : (place.chars.takeWhile fun c => !endsAuthority kind c) =
      place.userChars ++ place.host ++ place.portChars := Text.takeWhile_append_eq hfront htail
  have hdrop : (place.chars.dropWhile fun c => !endsAuthority kind c) = place.tail :=
    Text.dropWhile_append_eq hfront htail
  have hat := h.at_notMem hhost
  simp only [splitUser, htake, hdrop]
  cases huser : place.user with
  | none =>
      have hchars : place.userChars = [] := by rw [userChars, huser]
      have hnone : (place.host ++ place.portChars).contains '@' = false := by
        simpa using hat
      simp only [chars, hchars, List.nil_append, hnone, Bool.false_eq_true, if_false]
  | some user =>
      have hchars : place.userChars ++ place.host ++ place.portChars =
          user ++ '@' :: (place.host ++ place.portChars) := by
        simp [userChars, huser]
      have hlength : (user ++ '@' :: (place.host ++ place.portChars)).length -
          (place.host ++ place.portChars).length - 1 = user.length := by
        simp only [List.length_append, List.length_cons]
        omega
      rw [hchars, if_pos (by simp), reverse_takeWhile_at hat, hlength, List.take_left]

/-- Behind the user the host is found. -/
theorem IsParted.hostLength_eq (h : place.IsParted kind) (hhost : IsHostText place.host) :
    hostLength kind false (place.host ++ (place.portChars ++ place.tail)) = place.host.length := by
  refine hhost.hostLength_append fun c hc => ?_
  rw [portChars] at hc
  split at hc
  · exact .inl (h.tail c hc)
  · exact .inr (Option.some.inj hc).symm

/-- The port that digits mean behind a scheme: none if there are no digits or if it is the scheme's
own. -/
def shownPort (scheme : String) (digits : List Char) (port : UInt16) : Option UInt16 :=
  if digits = [] ∨ defaultPort? scheme = some port then none else some port

/-- Behind the host the port is found. -/
theorem IsParted.portOf?_some (h : place.IsParted kind) {digits : List Char} {port : UInt16}
    (hdigits : place.port = some digits) (hvalue : Text.digitsValue digits = port.toNat) :
    portOf? scheme (place.portChars ++ place.tail) =
      .ok (shownPort scheme digits port, place.tail) := by
  have hends : ∀ c ∈ ['/', '?', '#', '\\'], c.isDigit = false := Text.forall_of_all (by decide)
  have htail : ∀ c ∈ place.tail.head?, c.isDigit = false :=
    fun c hc => hends c (mem_of_endsAuthority (h.tail c hc))
  have htake : (digits ++ place.tail).takeWhile Char.isDigit = digits :=
    Text.takeWhile_append_eq (h.port digits hdigits) htail
  have hdrop : (digits ++ place.tail).dropWhile Char.isDigit = place.tail :=
    Text.dropWhile_append_eq (h.port digits hdigits) htail
  have hlt := port.toNat_lt
  rw [portChars, hdigits]
  simp only [List.cons_append, portOf?, readPort, htake, hdrop, hvalue, UInt16.ofNat_toNat]
  rw [if_neg]
  · simp only [shownPort, List.isEmpty_iff]
    split <;> rfl
  · refine not_or.2 ⟨by omega, ?_⟩
    split
    · decide
    · rename_i c rest heq
      have hmem := mem_of_endsAuthority (h.tail c (by rw [heq]; rfl))
      simp only [List.mem_cons, List.not_mem_nil, or_false] at hmem
      rcases hmem with rfl | rfl | rfl | rfl
      all_goals decide

/-- Without a colon there is no port. -/
theorem IsParted.portOf?_none (h : place.IsParted kind) (hport : place.port = none) :
    portOf? scheme (place.portChars ++ place.tail) = .ok (none, place.tail) := by
  have hchars : place.portChars = [] := by rw [portChars, hport]
  rw [hchars, List.nil_append, portOf?_of_ne]
  intro rest hrest
  have hcolon := h.tail ':' (by rw [hrest]; rfl)
  cases kind <;> cases hcolon

/-! ## What is seen -/

/-- The parts as they are seen, with what is seen of the tail. -/
def seen (place : Place) (tail : List Char) : Place :=
  { place with user := place.user.map (List.filter isShown), tail }

variable {tail : List Char}

/-- All of a host is seen. -/
theorem filter_host (h : IsHostText place.host) : place.host.filter isShown = place.host := by
  have hcontrols : ∀ c ∈ ['\t', '\n', '\r'], c ∈ delimiters ∧ c ∉ [':', '[', ']'] :=
    Text.forall_of_all (by decide)
  exact filter_isShown_eq_self fun c hc hmem =>
    h.notMem (hcontrols c hmem).1 (hcontrols c hmem).2 hc

/-- All of a port is seen. -/
theorem IsParted.filter_portChars (h : place.IsParted kind) :
    place.portChars.filter isShown = place.portChars := by
  have hcontrols : ∀ c ∈ ['\t', '\n', '\r'], c ≠ ':' ∧ c.isDigit = false :=
    Text.forall_of_all (by decide)
  refine filter_isShown_eq_self fun c hc hmem => ?_
  rcases h.mem_portChars hc with rfl | hdigit
  · exact (hcontrols _ hmem).1 rfl
  · cases (hcontrols c hmem).2.symm.trans hdigit

/-- What is seen of the parts. -/
theorem IsParted.filter_chars (h : place.IsParted kind) (hhost : IsHostText place.host) :
    (place.userChars ++ place.host ++ place.portChars).filter isShown ++ tail =
      (place.seen tail).chars := by
  rw [List.filter_append, List.filter_append, filter_host hhost, h.filter_portChars]
  cases huser : place.user with
  | none => simp [chars, userChars, portChars, seen, huser]
  | some user => simp [chars, userChars, portChars, seen, huser, isShown]

/-- What is seen of the parts is parted as they are. -/
theorem IsParted.seen (h : place.IsParted kind) (htail : tail.head? = place.tail.head?) :
    (place.seen tail).IsParted kind where
  user := by
    intro user huser c hc
    obtain ⟨written, hwritten, rfl⟩ := Option.map_eq_some_iff.1 huser
    exact h.user written hwritten c (List.mem_filter.1 hc).1
  port := h.port
  tail := by
    show ∀ c ∈ tail.head?, endsAuthority kind c = true
    rw [htail]
    exact h.tail

/-- It begins with a slash only if they do. -/
theorem IsParted.noSlash_seen (h : place.IsParted .special) (htail : tail.head? = place.tail.head?)
    (hchars : ∀ c ∈ place.chars.head?, c ≠ '/' ∧ c ≠ '\\') :
    ∀ c ∈ (place.seen tail).chars.head?, c ≠ '/' ∧ c ≠ '\\' := by
  intro c hc
  cases huser : place.user with
  | none =>
      refine hchars c ?_
      simp only [chars, userChars, portChars, Place.seen, huser, Option.map_none, List.nil_append,
        List.head?_append, htail] at hc ⊢
      exact hc
  | some user =>
      have hsplit : (place.seen tail).chars =
          user.filter isShown ++ '@' :: (place.host ++ place.portChars ++ tail) := by
        simp [chars, userChars, portChars, Place.seen, huser]
      rw [hsplit] at hc
      cases hfilter : user.filter isShown with
      | nil =>
          rw [hfilter] at hc
          cases hc
          decide
      | cons d rest =>
          rw [hfilter] at hc
          cases hc
          have hmem : c ∈ user := (List.mem_filter.1 (hfilter ▸ List.mem_cons_self ..)).1
          have hends := h.user user huser c hmem
          constructor <;> rintro rfl <;> cases hends

/-! ## Whole authorities -/

/-- A text with a host states a URL with this host, and with the port if it is not the scheme's
own. -/
theorem IsParted.parseAuthority_chars (h : place.IsParted kind)
    (hhost : hostOf? kind place.host = .ok host) (hne : place.host ≠ []) {port : Option UInt16}
    (hport : portOf? scheme (place.portChars ++ place.tail) = .ok (port, place.tail)) :
    ∃ url, parseAuthority scheme kind place.chars = .ok url ∧
      url.scheme = scheme ∧ url.host = some host ∧ url.port = port := by
  have htext := isHostText_of_hostOf? hhost
  have hlength := h.hostLength_eq htext
  have hhead : endsHere kind (place.host ++ (place.portChars ++ place.tail)) = false := by
    cases hchars : place.host with
    | nil => exact absurd hchars hne
    | cons c cs => exact htext.not_endsAuthority (by rw [hchars]; exact List.mem_cons_self ..) kind
  have hname : (host == Host.name "") = false := by
    rw [beq_eq_false_iff_ne]
    rintro rfl
    exact text_ne_empty hhost hne rfl
  simp only [parseAuthority_eq, h.splitUser_chars htext, List.append_assoc, hlength,
    List.take_left, List.drop_left, hhead, hhost, hname, hport, Except.bind, Bool.false_eq_true,
    and_false, false_and, if_false, Bool.false_and, List.isEmpty_eq_false_iff.2 hne]
  exact ⟨_, rfl, rfl, rfl, rfl⟩

/-- A text without a host states no URL, or one without a host. -/
theorem IsParted.host_eq_none_of_parseAuthority (h : place.IsParted kind) (hkind : kind ≠ .file)
    (hhost : place.host = []) {url : Url}
    (hurl : parseAuthority scheme kind place.chars = .ok url) :
    url.host = none := by
  have htext : IsHostText place.host := by
    rw [hhost]
    exact .inl (List.forall_mem_nil _)
  have hlength := h.hostLength_eq htext
  rw [hhost] at hlength
  simp only [parseAuthority_eq, h.splitUser_chars htext, List.append_assoc, hhost, hlength,
    List.length_nil, List.take_zero, List.drop_zero] at hurl
  split at hurl
  · cases hurl
  split at hurl
  · cases hurl
  rename_i hspecial
  have hother : kind = .other := by
    cases kind with
    | special => exact absurd ⟨rfl, rfl⟩ hspecial
    | file => exact absurd rfl hkind
    | other => rfl
  rw [hother] at hurl
  obtain ⟨host, hempty, hurl⟩ := exists_of_bind hurl
  cases hempty
  split at hurl
  · cases hurl
  obtain ⟨⟨port, rest⟩, -, hurl⟩ := exists_of_bind hurl
  dsimp only at hurl
  split at hurl
  · cases hurl
  · cases hurl
    rfl

end Place

end MalwareScan.Url
