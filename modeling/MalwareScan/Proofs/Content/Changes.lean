import MalwareScan.Proofs.Content.Agreement

/-!
# Files that change while they are read

A file may grow, shrink or be rewritten after it was opened. `LocalFile.readings` are the reads of
one open handle in a history of such changes. Each of them gives all that the captured length
promises, or it fails because the file ends too early: `isFaithful_readOver` for one read, and
`isFaithful_readings` for a history. The length and the digests are those of the content when the
file was opened (`captured_of_open`). The main theorem is `reads_despite_changes`.
-/

namespace MalwareScan

open Files (FileSystem)

variable {grants : Grants} {source : LocalFile}

/-- A read that wants `want` bytes at `offset` into the buffer `before` is whole if the file holds
them all: they are at the front of the buffer, and the rest of the buffer is untouched. Otherwise
the file has ended too early. -/
inductive Read.IsWholeOrEnded (read : Read) (want : Nat) (data : Bytes) (offset : Nat)
    (before : Bytes) : Prop where
  | whole : want = 0 ∨ offset + want ≤ data.length → read.outcome = .ok want →
      (data.slice offset want).length = want →
      read.buffer before = data.slice offset want ++ before.drop want →
      read.IsWholeOrEnded want data offset before
  | ended (fault : IoFault) : want ≠ 0 → data.length < offset + want →
      read.outcome = .error (.io fault) → fault.kind = .unexpectedEof →
      read.IsWholeOrEnded want data offset before

/-- What happens around an open file: the file system becomes another one, or the file is read
into a buffer. -/
inductive FileEvent where
  | change (fs : FileSystem)
  | read (grants : Grants) (offset : UInt64) (before : Bytes)

/-- Where and into which buffer an event reads the file, if it does. -/
def FileEvent.asked? : FileEvent → Option (UInt64 × Bytes)
  | change _ => none
  | read _ offset before => some (offset, before)

/-- A read of an open file, and what the file held then. -/
structure Reading where
  data : Bytes
  offset : UInt64
  before : Bytes
  read : Read

/-- A read of a file whose captured length is `length` is whole or ends with the file, and what it
wants does not reach beyond this length. -/
structure Reading.IsFaithful (reading : Reading) (length : UInt64) : Prop where
  wholeOrEnded : reading.read.IsWholeOrEnded
    (readableLength length reading.offset reading.before.length) reading.data reading.offset.toNat
    reading.before
  within : readableLength length reading.offset reading.before.length ≤
    length.toNat - reading.offset.toNat

namespace LocalFile

/-- The reads in a history of an open file, each over the handle that the one before it has left. -/
def readings (source : LocalFile) : FileSystem → FileHandle → List FileEvent → List Reading
  | _, _, [] => []
  | _, handle, .change fs :: events => source.readings fs handle events
  | fs, handle, .read grants offset before :: events =>
    let data := fs.content source.file
    let (read, next) := source.readOver data grants handle offset before.length
    ⟨data, offset, before, read⟩ :: source.readings fs next events

/-! ## Reads -/

/-- Every read is whole or ends with the file. -/
theorem isFaithful_readOver (source : LocalFile) (data : Bytes) (grants : Grants)
    (handle : FileHandle) (offset : UInt64) (before : Bytes) :
    (Reading.mk data offset before
      (source.readOver data grants handle offset before.length).1).IsFaithful source.length := by
  have hread := source.readOver_eq data grants handle offset before.length
  have hmin := readableLength_eq source.length offset before.length
  refine ⟨?_, by rw [hmin]; exact Nat.min_le_left _ _⟩
  dsimp only at hread ⊢
  generalize readableLength source.length offset before.length = want at hread
  have hlength := data.length_slice offset.toNat want
  rw [hread]
  by_cases hwhole : (data.slice offset.toNat want).length = want
  · rw [if_pos hwhole]
    refine .whole (by omega) rfl hwhole ?_
    rw [Read.buffer, Bytes.overwrite, hwhole]
  · rw [if_neg hwhole]
    exact .ended _ (by omega) (by omega) rfl rfl

/-- So it is for all reads of a history, whatever changes between them. -/
theorem isFaithful_readings (source : LocalFile) (events : List FileEvent) (fs : FileSystem)
    (handle : FileHandle) :
    ∀ reading ∈ source.readings fs handle events, reading.IsFaithful source.length := by
  induction events generalizing fs handle with
  | nil => nofun
  | cons event events ih =>
      cases event with
      | change later => exact ih later handle
      | read grants offset before =>
          exact List.forall_mem_cons.2
            ⟨source.isFaithful_readOver _ grants handle offset before, ih fs _⟩

/-- Each read of a history has its result. -/
theorem map_readings (source : LocalFile) (events : List FileEvent) (fs : FileSystem)
    (handle : FileHandle) :
    (source.readings fs handle events).map (fun reading => (reading.offset, reading.before)) =
      events.filterMap FileEvent.asked? := by
  induction events generalizing fs handle with
  | nil => rfl
  | cons event events ih =>
      cases event with
      | change later => exact ih later handle
      | read grants offset before => exact congrArg (List.cons (offset, before)) (ih fs _)

/-! ## What is captured -/

/-- Digesting a file in pieces is digesting what it holds: the pieces so far are its beginning. -/
theorem digestFrom_eq (grants : Grants) (data : Bytes) (turn position : Nat) :
    digestFrom grants data turn position (Hasher.new.update (data.take position)) =
      Hasher.new.update data := by
  generalize hleft : data.length - position = left
  induction left using Nat.strongRecOn generalizing turn position with
  | ind left ih =>
      have hlength := data.length_slice position (min digestPiece (max (grants turn) 1))
      rw [digestFrom]
      split
      · rename_i hend
        have hread : min (min digestPiece (max (grants turn) 1)) (data.length - position) = 0 :=
          hlength.symm.trans hend
        rw [List.take_of_length_le]
        rw [digestPiece] at hread
        omega
      · rename_i hmore
        have hread : (Grants.read (grants turn) data position digestPiece).length =
            min (min digestPiece (max (grants turn) 1)) (data.length - position) := hlength
        have htake : data.take position ++ Grants.read (grants turn) data position digestPiece =
            data.take (position +
              (Grants.read (grants turn) data position digestPiece).length) := by
          rw [List.take_add, hread, Grants.read, Bytes.slice, List.append_cancel_left_eq,
            List.take_eq_take_iff, List.length_drop]
          omega
        rw [← Hasher.update_append, htake]
        exact ih _ (by omega) _ _ rfl

/-- A file is opened with the length and the digests of what it holds then. -/
theorem captured_of_open {fs : FileSystem} {path : String} {digest : Bool}
    (hopen : LocalFile.open fs grants path digest = .ok source) :
    source.length = UInt64.ofNat (fs.content source.file).length ∧
      source.digests =
        if digest then Digests.ofBytes (fs.content source.file) else Digests.none := by
  unfold LocalFile.open at hopen
  split at hopen
  · cases hopen
  · rename_i file _
    have hdigests := digestFrom_eq grants (fs.content file) 0 0
    rw [List.take_zero, Hasher.update_new_nil] at hdigests
    cases hopen
    exact ⟨rfl, by rw [hdigests, Digests.ofBytes]⟩
  · cases hopen

/-- An open file reports the length and the digests of what it held when it was opened, whatever
it holds later. In any history of changes each read has its result: it gives all that this length
promises, or it fails with an unexpected end because the file does not hold as much any more. -/
theorem reads_despite_changes (fs : FileSystem) (digesting : Grants) (path : String) (digest : Bool)
    (source : LocalFile) (hopen : LocalFile.open fs digesting path digest = .ok source) :
    source.length = UInt64.ofNat (fs.content source.file).length ∧
      (∀ (later : FileSystem) (grants : Grants),
        (source.content later grants).length = source.length ∧
          ∀ kind, (source.content later grants).digest kind =
            if digest then (Digests.ofBytes (fs.content source.file)).tagged kind else "") ∧
      ∀ events,
        (source.readings fs {} events).map (fun reading => (reading.offset, reading.before)) =
            events.filterMap FileEvent.asked? ∧
          ∀ reading ∈ source.readings fs {} events, reading.IsFaithful source.length := by
  obtain ⟨hlength, hdigests⟩ := captured_of_open hopen
  refine ⟨hlength, fun later grants => ⟨rfl, fun kind => ?_⟩, fun events =>
    ⟨source.map_readings events fs {}, source.isFaithful_readings events fs {}⟩⟩
  show source.digests.tagged kind = _
  rw [hdigests]
  cases digest with
  | false => exact Digests.tagged_none kind
  | true => rfl

/-- Of a file that has grown, nothing beyond the captured length is read; of a file that was cut,
too much is wanted. -/
theorem reads_despite_changes_grown_and_cut :
    ∃ source grown cut,
      LocalFile.open (oneFile "f" [1, 2, 3, 4]) Grants.whole "f" true = .ok source ∧
      source.readings (oneFile "f" [1, 2, 3, 4]) {}
        [.change (oneFile "f" [5, 6, 7, 8, 9]), .read (fun _ => 1) 2 [0, 0, 0],
          .change (oneFile "f" [1, 2]), .read Grants.whole 1 [0, 0, 0]] = [grown, cut] ∧
      grown.read.outcome = .ok 2 ∧ grown.read.buffer [0, 0, 0] = [7, 8, 0] ∧
      ∃ fault, cut.read.outcome = .error (.io fault) ∧ fault.kind = .unexpectedEof := by
  obtain ⟨source, hopen, hfile, -⟩ :=
    LocalFile.open_eq_ok Grants.whole true (find_oneFile [1, 2, 3, 4]) (by decide)
  obtain ⟨hlength, -, hreads⟩ := reads_despite_changes _ _ _ _ source hopen
  have hfour : source.length = 4 := by rw [hlength, hfile]; rfl
  have hgrown : (oneFile "f" [5, 6, 7, 8, 9]).content source.file = [5, 6, 7, 8, 9] := by
    rw [hfile]
    rfl
  have hcut : (oneFile "f" [1, 2]).content source.file = [1, 2] := by rw [hfile]; rfl
  obtain ⟨-, hall⟩ := hreads [.change (oneFile "f" [5, 6, 7, 8, 9]), .read (fun _ => 1) 2 [0, 0, 0],
    .change (oneFile "f" [1, 2]), .read Grants.whole 1 [0, 0, 0]]
  simp only [readings, List.forall_mem_cons, hgrown, hcut] at hall
  obtain ⟨⟨hfirst, -⟩, ⟨hsecond, -⟩, -⟩ := hall
  refine ⟨source, _, _, hopen, by simp only [readings, hgrown, hcut]; rfl, ?_⟩
  dsimp only at hfirst hsecond ⊢
  rw [hfour] at hfirst hsecond
  have hgrownFits : ¬ [5, 6, 7, 8, 9].length < UInt64.toNat 2 + readableLength 4 2 3 := by decide
  have hcutEnds : ¬ (readableLength 4 1 3 = 0 ∨
      UInt64.toNat 1 + readableLength 4 1 3 ≤ [1, 2].length) := by
    decide
  refine ⟨?_, ?_, ?_⟩
  · cases hfirst with
    | whole _ hok => exact hok
    | ended _ _ hshort => exact absurd hshort hgrownFits
  · cases hfirst with
    | whole _ _ _ hbuffer => exact hbuffer
    | ended _ _ hshort => exact absurd hshort hgrownFits
  · cases hsecond with
    | whole henough => exact absurd henough hcutEnds
    | ended fault _ _ herror hkind => exact ⟨fault, herror, hkind⟩

end LocalFile

end MalwareScan
