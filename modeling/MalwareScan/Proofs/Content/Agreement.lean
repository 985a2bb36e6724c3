import MalwareScan.Content.Buffer
import MalwareScan.Content.LocalFile
import MalwareScan.Proofs.Remote.RangedReads

/-!
# One contract for all content

A buffer, a file and a remote object over the same bytes report the same length and answer every
read in the same way. For the file this needs `FileHandle.fill_eq`: a row of reads gives the bytes
behind the position of its handle, however the system splits them, and a read over an open handle
sets the position first, so that it does not matter where earlier reads left it
(`LocalFile.readOver_eq`, for a file that holds anything). The main theorem is `contents_agree`.
-/

namespace MalwareScan

open Files (FileSystem)

/-- A read of `data` at `offset` into the buffer `before` is exact: it gives as many bytes as fit
and as there are, they are those of the data, and the rest of the buffer is untouched. -/
structure Read.Fills (read : Read) (data : Bytes) (offset : UInt64) (before : Bytes) : Prop where
  outcome : read.outcome = .ok
    (if offset.toNat < data.length then min before.length (data.length - offset.toNat) else 0)
  front : ∀ n, read.outcome = .ok n → (read.buffer before).take n = data.slice offset.toNat n
  rest : ∀ n, read.outcome = .ok n → (read.buffer before).drop n = before.drop n

variable {data before : Bytes} {length offset : UInt64} {capacity : Nat} {grants : Grants}

/-- What a read should do fills the buffer. -/
theorem Read.fills_exact (hlength : length.toNat = data.length) :
    (Read.exact data length offset before.length).Fills data offset before := by
  have hfront := length_slice_readableLength hlength offset before.length
  have hcount : readableLength length offset before.length =
      if offset.toNat < data.length then min before.length (data.length - offset.toNat) else 0 := by
    rw [readableLength_eq, hlength]
    split <;> omega
  refine ⟨congrArg Except.ok hcount, fun n hn => ?_, fun n hn => ?_⟩
  · cases hn
    rw [Read.buffer, Read.exact, Bytes.overwrite, List.take_append_of_le_length
      (Nat.le_of_eq hfront.symm), List.take_of_length_le (Nat.le_of_eq hfront)]
  · cases hn
    rw [Read.buffer, Read.exact, Bytes.overwrite, hfront, List.drop_append_of_le_length
      (Nat.le_of_eq hfront.symm), List.drop_of_length_le (Nat.le_of_eq hfront), List.nil_append]

/-! ## Buffers -/

/-- A buffer is as long as its bytes. -/
theorem Buffer.toNat_length {buffer : Buffer} (hfits : buffer.data.length < UInt64.size) :
    buffer.length.toNat = buffer.data.length :=
  UInt64.toNat_ofNat_of_lt' hfits

/-- A read of a buffer is exact. -/
theorem Buffer.read_eq_exact {buffer : Buffer} (hfits : buffer.data.length < UInt64.size) :
    buffer.read offset capacity = .exact buffer.data buffer.length offset capacity := by
  rw [Buffer.read, Read.of, Read.exact, length_slice_readableLength (toNat_length hfits)]

/-! ## Files -/

/-- A row of reads gives the bytes behind the position of the handle, as many as are asked for and
as there are, and leaves the handle behind them. -/
theorem FileHandle.fill_eq (handle : FileHandle) (turn count : Nat) :
    handle.fill grants data turn count =
      (data.slice handle.position count,
        handle.seek (handle.position + (data.slice handle.position count).length)) := by
  induction count using Nat.strongRecOn generalizing handle turn with
  | ind count ih =>
      let front := data.slice handle.position (min count (max (grants turn) 1))
      have hlength : front.length =
          min (min count (max (grants turn) 1)) (data.length - handle.position) :=
        data.length_slice _ _
      have happend : front ++ data.slice (handle.position + front.length) (count - front.length) =
          data.slice handle.position count :=
        data.slice_append_slice handle.position (Nat.min_le_left _ _)
      rw [fill]
      by_cases hstop : front.length = 0 ∨ count ≤ front.length
      · -- Nothing is left behind the position, or all that was asked for is there.
        have hfront : front = data.slice handle.position count := by
          show Bytes.slice _ _ _ = _
          rw [Bytes.slice, Bytes.slice, List.take_eq_take_iff, List.length_drop]
          omega
        refine (dif_pos hstop).trans ?_
        show (front, handle.seek (handle.position + front.length)) = _
        rw [hfront]
      · refine (dif_neg hstop).trans ?_
        show (front ++ (FileHandle.fill _ grants data (turn + 1) (count - front.length)).1,
          (FileHandle.fill _ grants data (turn + 1) (count - front.length)).2) = _
        rw [ih _ (by omega)]
        show (front ++ data.slice (handle.position + front.length) (count - front.length),
          handle.seek (handle.position + front.length +
            (data.slice (handle.position + front.length) (count - front.length)).length)) = _
        rw [Nat.add_assoc, ← List.length_append, happend]

/-- A read of a file that holds anything gives the bytes at its offset, as many as should be read;
if there are less, it fails behind the last one. It does not matter where the handle stands. -/
theorem LocalFile.readOver_eq (source : LocalFile) (data : Bytes) (grants : Grants)
    (handle : FileHandle)
    (offset : UInt64) (capacity : Nat) :
    let want := readableLength source.length offset capacity
    let front := data.slice offset.toNat want
    (source.readOver data grants handle offset capacity).1 =
      ⟨front, if front.length = want then .ok want
        else .error (source.endedError (offset.toNat + front.length))⟩ := by
  intro want front
  have hle : front.length ≤ want := by
    rw [Bytes.length_slice]
    exact Nat.min_le_left _ _
  simp only [readOver, FileHandle.fill_eq, FileHandle.seek]
  by_cases hnothing : want = 0
  · have hfront : front = [] := List.length_eq_zero_iff.1 (by omega)
    rw [if_pos hnothing, hfront, hnothing]
    rfl
  · rw [if_neg hnothing]
    by_cases hwhole : front.length = want
    · rw [if_neg (Nat.not_lt.2 (Nat.le_of_eq hwhole.symm)), if_pos hwhole]
      show Read.of front = _
      rw [Read.of, hwhole]
    · rw [if_pos (Nat.lt_of_le_of_ne hle hwhole), if_neg hwhole]

/-- A read over an open handle is exact as long as the file holds what it held, wherever earlier
reads left the handle. -/
theorem LocalFile.readOver_eq_exact {source : LocalFile}
    (hlength : source.length.toNat = data.length)
    (handle : FileHandle) :
    (source.readOver data grants handle offset capacity).1 =
      .exact data source.length offset capacity := by
  have hslice := length_slice_readableLength hlength offset capacity
  rw [readOver_eq, Read.exact, if_pos hslice]

/-- A file is opened with the length that it has then. -/
theorem LocalFile.open_eq_ok {fs : FileSystem} {path : String} {file : Nat} (grants : Grants)
    (digest : Bool) (hfind : fs.find path = .ok (.file file))
    (hfits : (fs.content file).length < UInt64.size) :
    ∃ source, LocalFile.open fs grants path digest = .ok source ∧ source.file = file ∧
      source.length.toNat = (fs.content file).length := by
  refine ⟨_, by simp only [LocalFile.open, hfind]; rfl, rfl, ?_⟩
  exact UInt64.toNat_ofNat_of_lt' hfits

/-! ## Remote objects -/

/-- A read over a store that answers every fetch within the object with the bytes that were asked
for is exact. -/
theorem RemoteObject.read_eq_exact {object : RemoteObject} {store : ObjectStore}
    (hlength : object.length.toNat = data.length)
    (hfetch : ∀ first last : UInt64, first ≤ last → last.toNat < data.length →
      store.fetch first last = .ok (data.slice first.toNat (last.toNat + 1 - first.toNat))) :
    object.read store offset capacity = .exact data object.length offset capacity := by
  cases hrange : object.range? offset capacity with
  | none => exact read_of_range?_eq_none data hrange
  | some bounds =>
      obtain ⟨first, last⟩ := bounds
      have hcount := length_range?_eq_some hrange
      obtain ⟨rfl, hlast⟩ := range?_eq_some hrange
      have hslice := length_slice_readableLength hlength first capacity
      have hwant := readableLength_eq object.length first capacity
      have hsome : readableLength object.length first capacity ≠ 0 := by
        intro hnothing
        simp [range?, hnothing] at hrange
      have hget := hfetch first last (UInt64.le_iff_toNat_le.2 (by omega)) (by omega)
      rw [hcount] at hget
      rw [read_of_fetch hrange hget (Nat.le_of_eq hslice.symm), Read.exact,
        List.take_of_length_le (Nat.le_of_eq hslice)]

/-! ## All three -/

/-- A buffer over some bytes, a file that holds them and an object whose store holds them report
the same length, and every read fills its buffer in the same way: with the bytes at its offset, as
many as fit and as there are, while the rest of the buffer stays as it was. For the file this
holds wherever earlier reads left its handle, and however the system splits what it gives. -/
theorem contents_agree (data : Bytes) (name path : String) (digest : Bool) (fs : FileSystem)
    (file : Nat) (digesting : Grants) (store : ObjectStore) (info : ObjectInfo)
    (hfind : fs.find path = .ok (.file file)) (hcontent : fs.content file = data)
    (hinfo : store.info = .ok info) (hsize : info.size.toNat = data.length)
    (hfetch : ∀ first last : UInt64, first ≤ last → last.toNat < data.length →
      store.fetch first last = .ok (data.slice first.toNat (last.toNat + 1 - first.toNat))) :
    ∃ source object, LocalFile.open fs digesting path digest = .ok source ∧
      RemoteObject.open name store digest = .ok object ∧
      (Buffer.new data name digest).length.toNat = data.length ∧
      source.length.toNat = data.length ∧ object.length.toNat = data.length ∧
      ∀ offset before,
        ((Buffer.new data name digest).read offset before.length).Fills data offset before ∧
        (∀ handle grants, (source.readOver (fs.content source.file) grants handle offset
          before.length).1.Fills data offset before) ∧
        (object.read store offset before.length).Fills data offset before := by
  have hfits : data.length < UInt64.size := hsize ▸ info.size.toNat_lt
  obtain ⟨source, hopen, rfl, hlength⟩ :=
    LocalFile.open_eq_ok digesting digest hfind (hcontent ▸ hfits)
  rw [hcontent] at hlength
  have hbuffer : (Buffer.new data name digest).length.toNat = data.length :=
    Buffer.toNat_length hfits
  refine ⟨source, _, hopen, by simp only [RemoteObject.open, hinfo]; rfl, hbuffer, hlength, hsize,
    ?_⟩
  intro offset before
  refine ⟨?_, fun handle grants => ?_, ?_⟩
  · rw [Buffer.read_eq_exact hfits]
    exact Read.fills_exact hbuffer
  · rw [hcontent, LocalFile.readOver_eq_exact hlength]
    exact Read.fills_exact hlength
  · rw [RemoteObject.read_eq_exact hsize hfetch]
    exact Read.fills_exact hsize

/-- A file system with one file. -/
def oneFile (path : String) (data : Bytes) : FileSystem where
  root := .directory [(path, .file 0)]
  contents := #[data]

/-- The file is found. -/
theorem find_oneFile (data : Bytes) : (oneFile "f" data).find "f" = .ok (.file 0) := by
  have hcomponents : Files.components "f" = ["f"] := by decide +kernel
  have hrelative : Files.isAbsolute "f" = false := by decide +kernel
  rw [FileSystem.find, FileSystem.chain, if_neg (by decide), if_neg (by decide), if_neg (by decide),
    hcomponents, hrelative]
  rfl

/-- A store that has an object of these bytes. -/
def storeOf (data : Bytes) : ObjectStore where
  info := .ok { size := UInt64.ofNat data.length }
  fetch first last := .ok (data.slice first.toNat (last.toNat + 1 - first.toNat))

/-- A read that reaches over the end, of a file whose handle was left behind the last byte and that
gives its bytes one by one. -/
theorem contents_agree_piecewise :
    ∃ source object,
      LocalFile.open (oneFile "f" [1, 2, 3, 4]) (fun _ => 1) "f" false = .ok source ∧
      RemoteObject.open "f" (storeOf [1, 2, 3, 4]) false = .ok object ∧
      ((Buffer.new [1, 2, 3, 4] "f" false).read 2 3).Fills [1, 2, 3, 4] 2 [0, 0, 9] ∧
      (source.readOver [1, 2, 3, 4] (fun _ => 1) ⟨4⟩ 2 3).1.Fills [1, 2, 3, 4] 2 [0, 0, 9] ∧
      (object.read (storeOf [1, 2, 3, 4]) 2 3).Fills [1, 2, 3, 4] 2 [0, 0, 9] := by
  have hfind := find_oneFile [1, 2, 3, 4]
  obtain ⟨source, object, hsource, hobject, -, -, -, hreads⟩ := contents_agree [1, 2, 3, 4] "f" "f"
    false (oneFile "f" [1, 2, 3, 4]) 0 (fun _ => 1) (storeOf [1, 2, 3, 4]) { size := 4 } hfind
    rfl rfl rfl fun _ _ _ _ => rfl
  obtain ⟨hbuffer, hfile, hremote⟩ := hreads 2 [0, 0, 9]
  have hheld : (oneFile "f" [1, 2, 3, 4]).content source.file = [1, 2, 3, 4] := by
    simp only [LocalFile.open, hfind] at hsource
    cases hsource
    rfl
  have hpiecewise := hfile ⟨4⟩ fun _ => 1
  rw [hheld] at hpiecewise
  exact ⟨source, object, hsource, hobject, hbuffer, hpiecewise, hremote⟩

end MalwareScan
