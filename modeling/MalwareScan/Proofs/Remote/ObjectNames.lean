import MalwareScan.Proofs.Url.Paths
import MalwareScan.Remote.Locator

/-!
# The objects that locations name

The location of a bucket's object is shown as `s3://`, the bucket and the key. Read back, it goes
through the rules of URLs, which are not made for keys: blanks at its end are dropped, it is cut
off at a question mark or a number sign, characters are percent-encoded and never decoded,
segments of dots are resolved, and leading slashes are dropped. A location names the object that
it was written for exactly if the key is plain (`location_names_object_iff`).
-/

namespace MalwareScan.ObjectLocator

open Url

variable {bucket key : String} {bs ks cs : List Char} {c : Char}

/-- A key that the rules of URLs leave alone. -/
structure IsPlain (key : String) : Prop where
  kept : ∀ c ∈ key.toList, EncodeSet.path c = false
  noSlash : key.toList.head? ≠ some '/'
  noDots : ∀ segment ∈ key.toList.splitOnP (· == '/'), isDots segment = false

instance (key : String) : Decidable (IsPlain key) :=
  decidable_of_iff
    ((key.toList.all fun c => !EncodeSet.path c) ∧ key.toList.head? ≠ some '/' ∧
      (key.toList.splitOnP (· == '/')).all fun segment => !isDots segment)
    ⟨fun ⟨hkept, hslash, hdots⟩ => ⟨by simpa using hkept, hslash, by simpa using hdots⟩,
      fun ⟨hkept, hslash, hdots⟩ => ⟨by simpa using hkept, hslash, by simpa using hdots⟩⟩

/-- A character of a bucket's name: a lowercase letter, a digit, a dot or a hyphen. -/
def isBucketChar (c : Char) : Bool :=
  c.isLower || c.isDigit || c == '.' || c == '-'

/-! ## The characters of a location -/

/-- A control or a space, which a location does not have at its ends. -/
def isOuter (c : Char) : Bool :=
  c.toNat ≤ 0x20

/-- No tab and no line end, which a location does not have anywhere. -/
def isInner (c : Char) : Bool :=
  c != '\t' && c != '\n' && c != '\r'

/-- The part of a key that is seen at the end of a location. -/
def visibleKey (ks : List Char) : List Char :=
  ((ks.reverse.dropWhile isOuter).reverse).filter isInner

/-- The key that a location names if it was written for `key`. -/
def addressed (key : String) : String :=
  keyOf (pathText (.segments (segmentsOf .other (splitPath (visibleKey key.toList)).1)))

/-- What may stand at the ends of a location may stand anywhere in it. -/
theorem isInner_of_isOuter (h : isOuter c = false) : isInner c = true := by
  have hne (d : Char) (hd : isOuter d = true) : c ≠ d := by
    rintro rfl
    simp [h] at hd
  simp [isInner, hne '\t' (by decide), hne '\n' (by decide), hne '\r' (by decide)]

/-- Nothing is dropped in front of such characters. -/
theorem dropWhile_isOuter (h : ∀ c ∈ cs, isOuter c = false) : cs.dropWhile isOuter = cs := by
  cases cs with
  | nil => rfl
  | cons c cs => exact List.dropWhile_cons_of_neg (by simp [h c (by simp)])

/-- None of them is left out. -/
theorem filter_isInner (h : ∀ c ∈ cs, isOuter c = false) : cs.filter isInner = cs :=
  List.filter_eq_self.2 fun c hc => isInner_of_isOuter (h c hc)

/-- A key of such characters is seen as it is. -/
theorem visibleKey_eq (h : ∀ c ∈ ks, isOuter c = false) : visibleKey ks = ks := by
  rw [visibleKey, dropWhile_isOuter fun c hc => h c (List.mem_reverse.1 hc), List.reverse_reverse,
    filter_isInner h]

/-- Behind such characters only the key is seen in another way. -/
theorem visibleText_append {s t : String} (hne : s.toList ≠ [])
    (hs : ∀ c ∈ s.toList, isOuter c = false) :
    visibleText (s ++ t) = s.toList ++ visibleKey t.toList := by
  have hfront : (s ++ t).toList.dropWhile isOuter = s.toList ++ t.toList := by
    rw [String.toList_append, List.dropWhile_append, dropWhile_isOuter hs]
    exact if_neg (by simpa using hne)
  have hback : (s.toList ++ t.toList).reverse.dropWhile isOuter =
      t.toList.reverse.dropWhile isOuter ++ s.toList.reverse := by
    rw [List.reverse_append, List.dropWhile_append]
    split
    · rename_i hempty
      rw [dropWhile_isOuter fun c hc => hs c (List.mem_reverse.1 hc), List.isEmpty_iff.1 hempty]
      rfl
    · rfl
  calc visibleText (s ++ t)
      = (((s ++ t).toList.dropWhile isOuter).reverse.dropWhile isOuter).reverse.filter isInner :=
        rfl
    _ = s.toList ++ visibleKey t.toList := by
      rw [hfront, hback, List.reverse_append, List.reverse_reverse, List.filter_append,
        filter_isInner hs, visibleKey]

/-! ## The parts of a location -/

/-- A character of a bucket's name is none of the others. -/
theorem ne_of_isBucketChar (h : isBucketChar c = true) {d : Char} (hd : isBucketChar d = false) :
    c ≠ d := by
  rintro rfl
  simp [h] at hd

/-- A character of a bucket's name is a printable one of ASCII. -/
theorem toNat_of_isBucketChar (h : isBucketChar c = true) : 0x2D ≤ c.toNat ∧ c.toNat ≤ 0x7A := by
  have hlower : c.isLower = (c.val ≥ 'a'.val && c.val ≤ 'z'.val) := rfl
  have hdigit : c.isDigit = (c.val ≥ '0'.val && c.val ≤ '9'.val) := rfl
  simp only [isBucketChar, hlower, hdigit, Bool.or_eq_true, Bool.and_eq_true, decide_eq_true_eq,
    beq_iff_eq, ge_iff_le, UInt32.le_iff_toNat_le] at h
  rcases h with ((h | h) | rfl) | rfl
  · exact ⟨Nat.le_trans (by decide) h.1, h.2⟩
  · exact ⟨Nat.le_trans (by decide) h.1, Nat.le_trans h.2 (by decide)⟩
  · decide
  · decide

/-- A character of a bucket's name does not end it. -/
theorem endsAuthority_of_isBucketChar (h : isBucketChar c = true) :
    endsAuthority .other c = false := by
  simp [endsAuthority, ne_of_isBucketChar h (d := '/') (by decide),
    ne_of_isBucketChar h (d := '?') (by decide), ne_of_isBucketChar h (d := '#') (by decide)]

/-- The scheme of a location. -/
theorem splitScheme_location (cs : List Char) :
    splitScheme ("s3://".toList ++ cs) = some ("s3", '/' :: '/' :: cs) := by
  rfl

/-- A bucket's name states no user. -/
theorem splitUser_location (hbs : ∀ c ∈ bs, isBucketChar c = true) :
    splitUser .other (bs ++ '/' :: ks) = (none, bs ++ '/' :: ks) := by
  have hauthority : (bs ++ '/' :: ks).takeWhile (fun c => !endsAuthority .other c) = bs := by
    rw [List.takeWhile_append_of_pos fun c hc => by
      simp [endsAuthority_of_isBucketChar (hbs c hc)]]
    exact List.append_nil bs
  have hat : bs.contains '@' = false := by
    simpa using fun hmem => ne_of_isBucketChar (hbs '@' hmem) (by decide) rfl
  rw [splitUser, hauthority, hat]
  rfl

/-- The bucket's name is the host. -/
theorem hostLength_location (hbs : ∀ c ∈ bs, isBucketChar c = true) :
    hostLength .other false (bs ++ '/' :: ks) = bs.length := by
  induction bs with
  | nil => rfl
  | cons c bs ih =>
      obtain ⟨hc, hrest⟩ := List.forall_mem_cons.1 hbs
      have hbracket := ne_of_isBucketChar hc (d := '[') (by decide)
      have hcolon := ne_of_isBucketChar hc (d := ':') (by decide)
      simp [hostLength, endsAuthority_of_isBucketChar hc, hbracket, hcolon, ih hrest]

/-- The host is kept as it is. -/
theorem opaqueHost?_bucket (hbs : ∀ c ∈ bs, isBucketChar c = true) :
    opaqueHost? bs = .ok (.name (String.ofList bs)) := by
  have hhead : bs.head? ≠ some '[' := fun hhead =>
    ne_of_isBucketChar (hbs '[' (List.mem_of_head? hhead)) (by decide) rfl
  have hallowed : bs.any isForbiddenInHost = false := by
    rw [List.any_eq_false]
    intro c hc hforbidden
    have hnone : ['\x00', '\t', '\n', '\r', ' ', '#', '/', ':', '<', '>', '?', '@', '[',
        '\\', ']', '^', '|'].all (!isBucketChar ·) = true := by decide
    have hbad := List.all_eq_true.1 hnone c (List.contains_iff_mem.1 hforbidden)
    simp [hbs c hc] at hbad
  have hencoded : percentEncode EncodeSet.controls bs = bs := by
    refine percentEncode_eq_self fun c hc => ?_
    have hrange := toNat_of_isBucketChar (hbs c hc)
    simp only [EncodeSet.controls, Bool.or_eq_false_iff, decide_eq_false_iff_not]
    omega
  rw [opaqueHost?, if_neg hhead, hallowed, hencoded]
  rfl

/-- The URL of a location. -/
theorem parseAuthority_location (hbs : ∀ c ∈ bs, isBucketChar c = true) :
    parseAuthority "s3" .other (bs ++ '/' :: ks) =
      .ok (withPath
        { scheme := "s3", host := if bs = [] then none else some (.name (String.ofList bs))
          hasAuthority := true, path := .segments [] } .other ('/' :: ks)) := by
  have huser : userOf [] = ("", none) := rfl
  simp only [parseAuthority]
  rw [splitUser_location hbs, hostLength_location hbs]
  simp [opaqueHost?_bucket hbs, bind, Except.bind, huser]

/-! ## The key of a location -/

/-- The characters of the key that is addressed. -/
theorem toList_keyOf_segmentsOf (cs : List Char) :
    (keyOf (pathText (.segments (segmentsOf .other cs)))).toList =
      (pathChars cs).dropWhile (· == '/') := by
  rw [keyOf, toList_pathText_segmentsOf, String.toList_ofList]

/-- Every key that a path states is plain. -/
theorem isPlain_keyOf (cs : List Char) :
    IsPlain (keyOf (pathText (.segments (segmentsOf .other cs)))) := by
  have hsettled : ∀ segment ∈ ((pathChars cs).dropWhile (· == '/')).splitOnP (· == '/'),
      IsSettled segment := fun segment hsegment =>
    isSettled_of_mem_pathChars (mem_splitOnP_dropWhile hsegment)
  constructor <;> rw [toList_keyOf_segmentsOf]
  · intro c hc
    rcases eq_or_mem_segment hc with rfl | ⟨segment, hsegment, hmem⟩
    · decide
    · exact (hsettled segment hsegment).kept c hmem
  · intro hhead
    have hnot := List.head?_dropWhile_not (· == '/') (pathChars cs)
    rw [hhead] at hnot
    simp at hnot
  · exact fun segment hsegment => (hsettled segment hsegment).noDots

/-- The characters of a plain key are none that are dropped. -/
theorem IsPlain.isOuter_eq_false (h : IsPlain key) : ∀ c ∈ key.toList, isOuter c = false := by
  intro c hc
  have hkept := h.kept c hc
  simp only [EncodeSet.path, EncodeSet.fragment, EncodeSet.controls, Bool.or_eq_false_iff,
    decide_eq_false_iff_not, List.contains_eq_mem] at hkept
  have hspace : c.toNat ≠ 0x20 := by
    intro heq
    obtain rfl : c = ' ' := Char.toNat_inj.1 heq
    simp at hkept
  simp only [isOuter, decide_eq_false_iff_not]
  omega

/-- A plain key does not end in front of a query or a fragment. -/
theorem IsPlain.splitPath_eq (h : IsPlain key) : (splitPath key.toList).1 = key.toList := by
  have hinside : ∀ c ∈ key.toList, (c != '?' && c != '#') = true := by
    intro c hc
    have hkept := h.kept c hc
    have hne (d : Char) (hd : EncodeSet.path d = true) : c ≠ d := by
      rintro rfl
      simp [hkept] at hd
    simp [hne '?' (by decide), hne '#' (by decide)]
  have htake := @List.takeWhile_append_of_pos _ _ _ [] hinside
  rwa [List.append_nil, List.takeWhile_nil, List.append_nil] at htake

/-- A plain key is addressed as it is. -/
theorem IsPlain.addressed_eq (h : IsPlain key) : addressed key = key := by
  have hslash : key.toList.dropWhile (· == '/') = key.toList := by
    have hnot := h.noSlash
    cases hkey : key.toList with
    | nil => rfl
    | cons c cs =>
        rw [hkey] at hnot
        exact List.dropWhile_cons_of_neg (by simpa using hnot)
  apply String.toList_injective
  rw [addressed, toList_keyOf_segmentsOf, visibleKey_eq h.isOuter_eq_false, h.splitPath_eq,
    pathChars_eq h.kept h.noDots, List.dropWhile_cons_of_pos (by decide), hslash]

/-- The key that is addressed is the given one exactly if that is plain. -/
theorem addressed_eq_iff : addressed key = key ↔ IsPlain key :=
  ⟨fun h => h ▸ isPlain_keyOf _, IsPlain.addressed_eq⟩

/-- The URL that the location of an object states. -/
theorem urlParse_displayName (hbucket : ∀ c ∈ bucket.toList, isBucketChar c = true) :
    Url.parse (displayName (.s3 bucket key)) =
      .ok (withPath
        { scheme := "s3", host := if bucket.toList = [] then none else some (.name bucket)
          hasAuthority := true, path := .segments [] } .other ('/' :: visibleKey key.toList)) := by
  have hvisible : visibleText (displayName (.s3 bucket key)) =
      "s3://".toList ++ (bucket.toList ++ '/' :: visibleKey key.toList) := by
    rw [displayName, visibleText_append]
    · simp
    · simp
    · intro c hc
      simp only [String.toList_append, List.mem_append] at hc
      rcases hc with (hscheme | hname) | hslash
      · have hall : "s3://".toList.all (!isOuter ·) = true := by decide
        simpa using List.all_eq_true.1 hall c hscheme
      · have hrange := toNat_of_isBucketChar (hbucket c hname)
        simp only [isOuter, decide_eq_false_iff_not]
        omega
      · obtain rfl : c = '/' := by simpa using hslash
        decide
  rw [Url.parse, hvisible, splitScheme_location]
  exact (parseAuthority_location hbucket).trans (by rw [String.ofList_toList])

/-- The object that a URL with the scheme of buckets names. -/
theorem ofUrl?_bucket {u : Url} (hscheme : u.scheme = "s3") :
    ofUrl? u =
      if (u.host.elim "" Host.text) = "" ∨ keyOf (pathText u.path) = "" then none
      else some (.s3 (u.host.elim "" Host.text) (keyOf (pathText u.path))) := by
  rw [ofUrl?, hscheme]
  cases u.host <;> simp only [String.isEmpty_iff] <;> rfl

/-- What a location is read as. -/
theorem parse_displayName (hbucket : ∀ c ∈ bucket.toList, isBucketChar c = true) :
    parse (displayName (.s3 bucket key)) =
      if bucket = "" ∨ addressed key = "" then
        .error (.fileNotFound (displayName (.s3 bucket key)))
      else .ok (.s3 bucket (addressed key)) := by
  have hhost : (if bucket.toList = [] then none else some (Host.name bucket)).elim "" Host.text =
      bucket := by
    split
    · rename_i hempty
      exact (String.toList_eq_nil_iff.1 hempty).symm
    · rfl
  have hkey (url : Url) : keyOf (pathText (url.withPath .other
      ('/' :: visibleKey key.toList)).path) = addressed key := rfl
  rw [parse, urlParse_displayName hbucket]
  dsimp only
  rw [ofUrl?_bucket rfl, hkey]
  simp only [withPath, hhost]
  by_cases hnone : bucket = "" ∨ addressed key = ""
  · rw [if_pos hnone, if_pos hnone]
  · rw [if_neg hnone, if_neg hnone]

/-! ## All locations -/

/-- What a URL with an authority has of the text behind it. -/
theorem parseAuthority_eq_ok {scheme : String} {kind : SchemeKind} {u : Url}
    (h : parseAuthority scheme kind cs = .ok u) :
    u.scheme = scheme ∧ ∃ rest, u.path = pathOf kind rest := by
  simp only [parseAuthority, bind, Except.bind] at h
  -- Each way through ends in a fault or in a URL with the path behind its host.
  repeat' split at h
  all_goals
    cases h <;> exact ⟨rfl, _, rfl⟩

/-- A URL of a file has no other scheme. -/
theorem parseFile_eq_ok {u : Url} (h : parseFile cs = .ok u) : u.scheme = "file" := by
  simp only [parseFile, bind, Except.bind] at h
  repeat' split at h
  all_goals
    cases h <;> rfl

/-- A URL that names a bucket has the path that stands behind its host. -/
theorem urlParse_eq_ok {location : String} {u : Url} (h : Url.parse location = .ok u)
    (hscheme : u.scheme = "s3") (hhost : u.host ≠ none) : ∃ cs, u.path = pathOf .other cs := by
  unfold Url.parse at h
  split at h
  · cases h
  · rename_i scheme rest hsplit
    cases hkind : schemeKind scheme with
    | special =>
        rw [hkind] at h
        obtain ⟨heq, -⟩ := parseAuthority_eq_ok h
        rw [← heq, hscheme] at hkind
        cases hkind
    | file =>
        rw [hkind] at h
        rw [parseFile_eq_ok h] at hscheme
        exact absurd hscheme (by decide)
    | other =>
        rw [hkind] at h
        dsimp only at h
        split at h
        · exact (parseAuthority_eq_ok h).2
        · cases h
          exact absurd rfl hhost

/-- Behind a host there are segments. -/
theorem pathOf_other (cs : List Char) :
    pathOf .other cs = .segments [] ∨
      ∃ rest, pathOf .other cs = .segments (segmentsOf .other rest) := by
  unfold pathOf
  split
  · exact .inl rfl
  · split
    · exact .inr ⟨_, rfl⟩
    · exact .inr ⟨_, rfl⟩

/-- No location names an object whose key is not plain. -/
theorem isPlain_of_parse {location : String} (h : parse location = .ok (.s3 bucket key)) :
    IsPlain key := by
  unfold parse at h
  split at h
  · rename_i u hparse
    split at h
    · rename_i locator hnamed
      cases h
      have hscheme : u.scheme = "s3" := by
        unfold ofUrl? at hnamed
        split at hnamed
        · assumption
        · cases hnamed
        · cases hnamed
      rw [ofUrl?_bucket hscheme] at hnamed
      split at hnamed
      · cases hnamed
      · rename_i hpresent
        cases hnamed
        obtain ⟨cs, hpath⟩ := urlParse_eq_ok hparse hscheme fun hnone =>
          hpresent (.inl (by rw [hnone]; rfl))
        rw [hpath] at hpresent ⊢
        rcases pathOf_other cs with hempty | ⟨rest, hsegments⟩
        · exact absurd (.inr (by rw [hempty]; rfl)) hpresent
        · rw [hsegments]
          exact isPlain_keyOf rest
    · cases h
  · cases h

/-- The location of an object of a bucket names that object exactly if the key is plain. With any
other key it is refused, or it names the object under the key that the rules of URLs make of it,
which is another one; and no other location names such an object either. -/
theorem location_names_object_iff (bucket key : String)
    (hbucket : ∀ c ∈ bucket.toList, isBucketChar c = true) (hkey : key ≠ "") :
    (parse (displayName (.s3 bucket key)) = .ok (.s3 bucket key) ↔ bucket ≠ "" ∧ IsPlain key) ∧
    (∀ locator, parse (displayName (.s3 bucket key)) = .ok locator →
      locator = .s3 bucket (addressed key)) ∧
    (addressed key = key ↔ IsPlain key) ∧
    ∀ location, parse location = .ok (.s3 bucket key) → IsPlain key := by
  refine ⟨⟨fun h => ⟨?_, isPlain_of_parse h⟩, ?_⟩, ?_, addressed_eq_iff, fun _ => isPlain_of_parse⟩
  · rintro rfl
    rw [parse_displayName hbucket, if_pos (.inl rfl)] at h
    cases h
  · rintro ⟨hnonempty, hplain⟩
    have heq := hplain.addressed_eq
    rw [parse_displayName hbucket, heq, if_neg (by simp [hnonempty, hkey])]
  · intro locator h
    rw [parse_displayName hbucket] at h
    split at h
    · cases h
    · cases h
      rfl

/-- The location of a file in a directory names that file. -/
theorem location_names_file :
    (∀ c ∈ "my-bucket".toList, isBucketChar c = true) ∧ "path/to/file.zip" ≠ "" ∧
      parse (displayName (.s3 "my-bucket" "path/to/file.zip")) =
        .ok (.s3 "my-bucket" "path/to/file.zip") :=
  have hbucket : ∀ c ∈ "my-bucket".toList, isBucketChar c = true :=
    List.all_eq_true.1 (by decide)
  ⟨hbucket, by decide, (location_names_object_iff "my-bucket" "path/to/file.zip" hbucket
    (by decide)).1.2 ⟨by decide, by decide⟩⟩

/-- The location of an object whose key has a space names another object. -/
theorem location_names_other_object :
    (∀ c ∈ "bkt".toList, isBucketChar c = true) ∧ "a b" ≠ "" ∧
      parse (displayName (.s3 "bkt" "a b")) = .ok (.s3 "bkt" "a%20b") ∧
      ObjectLocator.s3 "bkt" "a%20b" ≠ .s3 "bkt" "a b" := by
  have hbucket : ∀ c ∈ "bkt".toList, isBucketChar c = true := List.all_eq_true.1 (by decide)
  have haddressed : addressed "a b" = "a%20b" := by decide
  refine ⟨hbucket, by decide, ?_, by decide⟩
  rw [parse_displayName hbucket, haddressed, if_neg (by decide)]

end MalwareScan.ObjectLocator
