import MalwareScan.Client.Calls
import MalwareScan.Session.Opening

/-!
# Admission of scans

A scan is admitted by an open client if its tags and its content are within the limits. `Admits`
and `Refuses` state this without the check: a refused scan fails for the first reason in the order
in which `Refuses` lists them. The message that opens an admitted scan describes its content and
its options (`describes_openingMessage`).
-/

namespace MalwareScan

open Wire (ClientMessage Stage)

variable {closed : Bool} {options : ScanOptions} {length : UInt64} {content : Content} {e : Error}

/-- A tag has from one to 63 characters. -/
def IsTag (tag : String) : Prop :=
  1 ≤ tag.length ∧ tag.length ≤ 63

/-- A scan of a content of this length may go on, if the client is `closed` or not. -/
structure Admits (closed : Bool) (options : ScanOptions) (length : UInt64) : Prop where
  isOpen : closed = false
  tagCount : options.tags.length ≤ 8
  tags : ∀ tag ∈ options.tags, IsTag tag
  size : length.toNat ≤ 2147483647

/-- A scan of a content of this length fails, if the client is `closed` or not: because the client
is closed, for the number of its tags, for the first of its tags that is none, or for its length.
Each reason counts only if those before it do not apply. -/
inductive Refuses (closed : Bool) (options : ScanOptions) (length : UInt64) : Error → Prop where
  | cancelled (hclosed : closed = true) : Refuses closed options length .cancelled
  | tooManyTags (hopen : closed = false) (hcount : 8 < options.tags.length) :
      Refuses closed options length (.tooManyTags 8)
  | tagLength (before : List String) (tag : String) (after : List String) (hopen : closed = false)
      (hcount : options.tags.length ≤ 8) (htags : options.tags = before ++ tag :: after)
      (hbefore : ∀ tag ∈ before, IsTag tag) (htag : ¬ IsTag tag) :
      Refuses closed options length (.tagLength 63 tag)
  | contentTooLarge (hopen : closed = false) (hcount : options.tags.length ≤ 8)
      (htags : ∀ tag ∈ options.tags, IsTag tag) (hsize : 2147483647 < length.toNat) :
      Refuses closed options length (.contentTooLarge length 2147483647)

/-- The message opens a scan of the content with the options. -/
structure Describes (content : Content) (options : ScanOptions) (m : ClientMessage) : Prop where
  stage : m.stage = Stage.init.number
  name : m.fileName = content.name
  size : m.size.toInt = content.length.toNat
  sha1 : m.sha1 = content.digest .sha1
  sha256 : m.sha256 = content.digest .sha256
  tags : m.tags = options.tags
  pml : m.pml = options.pml
  feedback : m.feedback = options.feedback
  verbose : m.verbose = options.verbose
  activeContent : m.activeContent = options.activeContent
  bulk : m.bulk = true
  chunk : m.offset = 0 ∧ m.chunk = []

/-! ## The check -/

theorem isTag_iff {tag : String} : isTag tag = true ↔ IsTag tag := by
  simp only [isTag, IsTag, Bool.and_eq_true, decide_eq_true_eq]
  rfl

/-- The check of the tags names the first that is none. -/
theorem find?_not_isTag_eq_some_iff {tags : List String} {tag : String} :
    (tags.find? fun tag => !isTag tag) = some tag ↔
      ¬ IsTag tag ∧ ∃ before after, tags = before ++ tag :: after ∧ ∀ t ∈ before, IsTag t := by
  simp [List.find?_eq_some_iff_append, ← isTag_iff]

/-- The check of the tags finds nothing if all of them are tags. -/
theorem find?_not_isTag_eq_none_iff {tags : List String} :
    (tags.find? fun tag => !isTag tag) = none ↔ ∀ tag ∈ tags, IsTag tag := by
  simp [← isTag_iff]

/-- Every scan is admitted or refused. -/
theorem admits_or_refuses (closed : Bool) (options : ScanOptions) (length : UInt64) :
    Admits closed options length ∨ ∃ e, Refuses closed options length e := by
  cases hopen : closed with
  | true => exact .inr ⟨_, .cancelled rfl⟩
  | false =>
      rcases Nat.lt_or_ge 8 options.tags.length with hcount | hcount
      · exact .inr ⟨_, .tooManyTags rfl hcount⟩
      cases htags : options.tags.find? fun tag => !isTag tag with
      | some tag =>
          obtain ⟨htag, before, after, heq, hbefore⟩ := find?_not_isTag_eq_some_iff.1 htags
          exact .inr ⟨_, .tagLength before tag after rfl hcount heq hbefore htag⟩
      | none =>
          have hall := find?_not_isTag_eq_none_iff.1 htags
          rcases Nat.lt_or_ge 2147483647 length.toNat with hsize | hsize
          · exact .inr ⟨_, .contentTooLarge rfl hcount hall hsize⟩
          · exact .inl ⟨rfl, hcount, hall, hsize⟩

/-- A scan that is admitted passes the check. -/
theorem Admits.checkScan_eq (h : Admits closed options length) :
    checkScan closed options length = .ok () := by
  have hcount : ¬ maxTags < options.tags.length := Nat.not_lt.2 h.tagCount
  have hsize : ¬ maxContentLength < length := Nat.not_lt.2 h.size
  rw [checkScan, h.isOpen, ScanOptions.validate, validateTags, if_neg hcount,
    find?_not_isTag_eq_none_iff.2 h.tags, if_neg hsize]
  rfl

/-- A scan that is refused fails the check for its reason. -/
theorem Refuses.checkScan_eq (h : Refuses closed options length e) :
    checkScan closed options length = .error e := by
  cases h with
  | cancelled hclosed => rw [checkScan, if_pos hclosed]
  | tooManyTags hopen hcount =>
      have hmany : maxTags < options.tags.length := hcount
      rw [checkScan, hopen, ScanOptions.validate, validateTags, if_pos hmany]
      rfl
  | tagLength before tag after hopen hcount htags hbefore htag =>
      have hfew : ¬ maxTags < options.tags.length := Nat.not_lt.2 hcount
      rw [checkScan, hopen, ScanOptions.validate, validateTags, if_neg hfew,
        find?_not_isTag_eq_some_iff.2 ⟨htag, before, after, htags, hbefore⟩]
      rfl
  | contentTooLarge hopen hcount htags hsize =>
      have hfew : ¬ maxTags < options.tags.length := Nat.not_lt.2 hcount
      have hlarge : maxContentLength < length := hsize
      rw [checkScan, hopen, ScanOptions.validate, validateTags, if_neg hfew,
        find?_not_isTag_eq_none_iff.2 htags, if_pos hlarge]
      rfl

/-! ## The opening message -/

/-- The opening message of a scan whose length is within the limit describes it. -/
theorem describes_openingMessage (h : content.length.toNat ≤ 2147483647) :
    Describes content options (openingMessage content options) := by
  have hfits : content.length ≤ 0x7FFFFFFFFFFFFFFF :=
    UInt64.le_iff_toNat_le.2 (Nat.le_trans h (by decide))
  have hsize : (openingMessage content options).size.toInt = content.length.toNat := by
    have hpositive : 2 * content.length.toBitVec.toNat < 2 ^ 64 := by
      rw [UInt64.toNat_toBitVec]
      omega
    rw [openingMessage, if_pos hfits]
    exact BitVec.toInt_eq_toNat_of_lt hpositive
  exact ⟨rfl, rfl, hsize, rfl, rfl, rfl, rfl, rfl, rfl, rfl, rfl, rfl, rfl⟩

end MalwareScan
