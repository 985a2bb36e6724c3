import MalwareScan.Proofs.Content.Changes
import MalwareScan.Proofs.Digest.Messages
import MalwareScan.Proofs.Remote.Checksums

/-!
# Digests of the same content

Digests reach the scanner in four ways: a file is digested in the pieces that its reads give, a
buffer at once, other content in the parts in which it arrives, and of an object in a bucket the
service states them. `digests_agree`: for the same content all of them report the same.
-/

namespace MalwareScan

open Base64 (Spells)
open Files (FileSystem)

variable {kind : HashKind}

/-- The digest of content. -/
def HashKind.digest : HashKind → Bytes → Bytes
  | sha1, data => Digest.Sha1.hash.ofMessage data
  | sha256, data => Digest.Sha256.hash.ofMessage data

/-- The digest of content as it is reported. -/
def HashKind.report (kind : HashKind) (data : Bytes) : String :=
  kind.tag ++ ":" ++ Hex.encode (kind.digest data)

/-- The header in which a service states a checksum. -/
def HashKind.checksumHeader : HashKind → String
  | sha1 => "x-amz-checksum-sha1"
  | sha256 => "x-amz-checksum-sha256"

/-! ## Content that arrives in parts -/

/-- Both digests are fed every part. -/
theorem Hasher.foldl_update (hasher : Hasher) (parts : List Bytes) :
    parts.foldl update hasher =
      ⟨parts.foldl (Digest.Stream.update Digest.Sha1.hash) hasher.sha1,
        parts.foldl (Digest.Stream.update Digest.Sha256.hash) hasher.sha256⟩ := by
  induction parts generalizing hasher with
  | nil => rfl
  | cons part parts ih => exact ih (hasher.update part)

/-- Content that arrives in parts is reported with its digests. -/
theorem Digests.tagged_finish (kind : HashKind) (parts : List Bytes) :
    (parts.foldl Hasher.update Hasher.new).finish.tagged kind = kind.report parts.flatten := by
  have hsha1 := Digest.Stream.finish_foldl_update Digest.Sha1.hash parts
  have hsha256 := Digest.Stream.finish_foldl_update Digest.Sha256.hash parts
  rw [Hasher.foldl_update]
  cases kind with
  | sha1 => exact congrArg (fun bytes => "sha1:" ++ Hex.encode bytes) hsha1
  | sha256 => exact congrArg (fun bytes => "sha256:" ++ Hex.encode bytes) hsha256

/-- So is content that is there at once. -/
theorem Digests.tagged_ofBytes (kind : HashKind) (data : Bytes) :
    (Digests.ofBytes data).tagged kind = kind.report data := by
  have h := tagged_finish kind [data]
  rwa [List.flatten_singleton] at h

/-! ## Digests that are known beforehand -/

/-- A digest is never empty. -/
theorem HashKind.digest_ne_nil (kind : HashKind) (data : Bytes) : kind.digest data ≠ [] := by
  apply List.ne_nil_of_length_pos
  cases kind with
  | sha1 => exact Nat.lt_of_lt_of_eq (by decide) (Digest.Sha1.length_output _).symm
  | sha256 => exact Nat.lt_of_lt_of_eq (by decide) (Digest.Sha256.length_output _).symm

/-- A digest in hexadecimal is known as it is. -/
theorem Digests.known_encode {bytes : Bytes} (h : bytes ≠ []) :
    known (some (Hex.encode bytes)) = some (Hex.encode bytes) := by
  rw [known, Option.filter_some_pos (by rw [Hex.isEmpty_encode h]; rfl), Option.map_some,
    Hex.map_toLower_encode]

/-- Digests that are known are reported. -/
theorem Digests.tagged_ofHex (kind : HashKind) (data : Bytes) :
    (ofHex (some (Hex.encode (HashKind.sha1.digest data)))
      (some (Hex.encode (HashKind.sha256.digest data)))).tagged kind = kind.report data := by
  rw [ofHex, known_encode (HashKind.digest_ne_nil .sha1 data),
    known_encode (HashKind.digest_ne_nil .sha256 data)]
  cases kind <;> rfl

/-- An answer that succeeds and has a size describes the object, by the checksums that it states. -/
theorem BucketObject.info_eq_ok (bucket : BucketObject) {answer : Response} {size : UInt64}
    (hsuccess : isSuccess answer.status = true) (hsize : sizeOf? answer = some size) :
    bucket.info (.ok answer) =
      .ok ⟨size, (answer.header? HashKind.sha1.checksumHeader).bind checksumHex?,
        (answer.header? HashKind.sha256.checksumHeader).bind checksumHex?⟩ := by
  have hrange : 200 ≤ answer.status ∧ answer.status ≤ 299 := by
    simpa [isSuccess] using hsuccess
  simp only [info]
  rw [if_neg (by omega), if_neg (by omega), if_neg (by simp [hsuccess]), hsize]
  rfl

/-- A checksum that spells a digest states it. -/
theorem bind_checksumHex?_eq {answer : Response} {data : Bytes}
    (h : ∃ checksum, answer.header? kind.checksumHeader = some checksum ∧
      Spells checksum.toList (kind.digest data)) :
    (answer.header? kind.checksumHeader).bind checksumHex? =
      some (Hex.encode (kind.digest data)) := by
  obtain ⟨checksum, hstated, hspells⟩ := h
  rw [hstated]
  exact checksumHex?_eq_some_iff.2 ⟨_, hspells, rfl⟩

/-! ## All ways -/

/-- Digests of content are reported if they are asked for. -/
theorem Digests.tagged_ite (digest : Bool) (kind : HashKind) (data : Bytes) :
    (if digest then ofBytes data else none).tagged kind =
      if digest then kind.report data else "" := by
  cases digest with
  | false => exact tagged_none kind
  | true => exact tagged_ofBytes kind data

/-- A file that is found is opened with the digests of what it holds. -/
theorem LocalFile.exists_open {fs : FileSystem} {path : String} {file : Nat} (grants : Grants)
    (digest : Bool) (hfind : fs.find path = .ok (.file file)) :
    ∃ source, LocalFile.open fs grants path digest = .ok source ∧
      source.digests =
        if digest then Digests.ofBytes (fs.content file) else Digests.none := by
  obtain ⟨source, hopen, rfl⟩ : ∃ source,
      LocalFile.open fs grants path digest = .ok source ∧ source.file = file :=
    ⟨_, by simp only [LocalFile.open, hfind]; rfl, rfl⟩
  exact ⟨source, hopen, (captured_of_open hopen).2⟩

/-- The same content is reported with the same digests, or with none if none are asked for: by a
file that holds it, whatever each of the reads gives while it is digested, by a buffer, and by an
object in a bucket whose checksums are the digests in base64. Content that arrives in parts is
reported so too. -/
theorem digests_agree (data : Bytes) (digest : Bool) (fs : FileSystem) (path : String) (file : Nat)
    (hfind : fs.find path = .ok (.file file)) (hcontent : fs.content file = data)
    (bucket : BucketObject) (answer : Response) (size : UInt64)
    (hsuccess : BucketObject.isSuccess answer.status = true)
    (hsize : BucketObject.sizeOf? answer = some size)
    (hchecksums : digest = true → ∀ kind : HashKind, ∃ checksum,
      answer.header? kind.checksumHeader = some checksum ∧
        Spells checksum.toList (kind.digest data)) :
    (∀ digesting, ∃ source, LocalFile.open fs digesting path digest = .ok source ∧
      ∀ later grants kind,
        (source.content later grants).digest kind = if digest then kind.report data else "") ∧
    (∀ name kind,
      (Buffer.new data name digest).content.digest kind = if digest then kind.report data else "") ∧
    (∀ parts : List Bytes, parts.flatten = data → ∀ kind,
      (parts.foldl Hasher.update Hasher.new).finish.tagged kind = kind.report data) ∧
    ∀ name get, ∃ object,
      RemoteObject.open name (bucket.store (.ok answer) get) digest = .ok object ∧
      ∀ store kind,
        (object.content store).digest kind = if digest then kind.report data else "" := by
  refine ⟨fun digesting => ?_, fun name kind => Digests.tagged_ite digest kind data, ?_, ?_⟩
  · obtain ⟨source, hopen, hdigests⟩ := LocalFile.exists_open digesting digest hfind
    refine ⟨source, hopen, fun later grants kind => ?_⟩
    show source.digests.tagged kind = _
    rw [hdigests, hcontent, Digests.tagged_ite]
  · rintro parts rfl kind
    exact Digests.tagged_finish kind parts
  · intro name get
    have hinfo : (bucket.store (.ok answer) get).info = _ := bucket.info_eq_ok hsuccess hsize
    refine ⟨_, by simp only [RemoteObject.open, hinfo]; rfl, fun store kind => ?_⟩
    show Digests.tagged (if digest then Digests.ofHex _ _ else Digests.none) kind = _
    cases digest with
    | false => exact Digests.tagged_none kind
    | true =>
        rw [bind_checksumHex?_eq (hchecksums rfl .sha1),
          bind_checksumHex?_eq (hchecksums rfl .sha256)]
        exact Digests.tagged_ofHex kind data

/-- Short content. -/
def abc : Bytes := [97, 98, 99]

/-- An answer that states its checksums. -/
def abcAnswer : Response where
  status := 200
  headers := [("content-length", "3"), ("x-amz-checksum-sha1", "qZk+NkcGgWq6PiVxeFDCbJzQ2J0="),
    ("x-amz-checksum-sha256", "ungWv48Bz+pBQUDeXa4iI7ADYaOWF3qctBD/YfIAFa0=")]

/-- The reported digests of short content: of a file that is read byte by byte, a buffer, parts
with an empty one among them, and an object. -/
theorem digests_agree_abc :
    ∃ source object,
      LocalFile.open (oneFile "f" abc) (fun _ => 1) "f" true = .ok source ∧
      RemoteObject.open "o" ((BucketObject.mk "b" "o").store (.ok abcAnswer) fun _ _ => .error "")
        true = .ok object ∧
      (∀ kind : HashKind,
        (source.content (oneFile "f" []) Grants.whole).digest kind = kind.report abc ∧
        (Buffer.new abc "m" true).content.digest kind = kind.report abc ∧
        ([[97], [], [98, 99]].foldl Hasher.update Hasher.new).finish.tagged kind = kind.report abc ∧
        (object.content (storeOf [])).digest kind = kind.report abc) ∧
      HashKind.sha1.report abc = "sha1:a9993e364706816aba3e25717850c26c9cd0d89d" ∧
      HashKind.sha256.report abc =
        "sha256:ba7816bf8f01cfea414140de5dae2223b00361a396177a9cb410ff61f20015ad" := by
  have hsha1 : HashKind.sha1.digest abc =
      [0xa9, 0x99, 0x3e, 0x36, 0x47, 0x06, 0x81, 0x6a, 0xba, 0x3e, 0x25, 0x71, 0x78, 0x50, 0xc2,
        0x6c, 0x9c, 0xd0, 0xd8, 0x9d] := by
    decide +kernel
  have hsha256 : HashKind.sha256.digest abc =
      [0xba, 0x78, 0x16, 0xbf, 0x8f, 0x01, 0xcf, 0xea, 0x41, 0x41, 0x40, 0xde, 0x5d, 0xae, 0x22,
        0x23, 0xb0, 0x03, 0x61, 0xa3, 0x96, 0x17, 0x7a, 0x9c, 0xb4, 0x10, 0xff, 0x61, 0xf2, 0x00,
        0x15, 0xad] := by
    decide +kernel
  have hchecksums : ∀ kind : HashKind, ∃ checksum,
      abcAnswer.header? kind.checksumHeader = some checksum ∧
        Spells checksum.toList (kind.digest abc) := by
    intro kind
    cases kind with
    | sha1 =>
        refine ⟨"qZk+NkcGgWq6PiVxeFDCbJzQ2J0=", by decide +kernel, ?_⟩
        rw [hsha1, ← Base64.decode?_eq_some_iff]
        decide +kernel
    | sha256 =>
        refine ⟨"ungWv48Bz+pBQUDeXa4iI7ADYaOWF3qctBD/YfIAFa0=", by decide +kernel, ?_⟩
        rw [hsha256, ← Base64.decode?_eq_some_iff]
        decide +kernel
  obtain ⟨hfile, hbuffer, hparts, hobject⟩ := digests_agree abc true (oneFile "f" abc) "f" 0
    (find_oneFile abc) rfl ⟨"b", "o"⟩ abcAnswer 3 rfl (by decide +kernel) fun _ => hchecksums
  obtain ⟨source, hsource, hdigests⟩ := hfile fun _ => 1
  obtain ⟨object, hopen, hstated⟩ := hobject "o" fun _ _ => .error ""
  refine ⟨source, object, hsource, hopen, fun kind => ⟨hdigests _ _ kind, hbuffer "m" kind,
    hparts [[97], [], [98, 99]] rfl kind, hstated _ kind⟩, ?_, ?_⟩
  · rw [HashKind.report, hsha1]
    decide +kernel
  · rw [HashKind.report, hsha256]
    decide +kernel

end MalwareScan
