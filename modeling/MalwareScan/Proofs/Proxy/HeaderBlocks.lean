import MalwareScan.Proofs.Proxy.Streams
import MalwareScan.Proxy.HttpConnect

/-!
# The answer to a CONNECT request

The proxy's block of headers is the shortest beginning of its stream that ends in an empty line
(`HttpConnect.IsHead`). It is read byte by byte, so that of a block that is not too long exactly its
bytes are consumed, and of any other stream no byte behind the limit or behind the block. The main
theorem is `header_block_alone_is_consumed`, which also says for which blocks the tunnel is open.
-/

namespace MalwareScan

/-! ## Words -/

namespace Text

variable {b : Char} {cs word first second : List Char} {more : List (List Char)}

/-- A run of characters that are not blank. -/
structure IsWord (word : List Char) : Prop where
  ne_nil : word ≠ []
  noBlank : ∀ c ∈ word, isBlank c = false

/-- A text that does not go on with a word that stands in front of it. -/
def IsApart (cs : List Char) : Prop :=
  ∀ c, cs.head? = some c → isBlank c = true

/-- The second of the words that blanks divide a line into. -/
def IsSecondWord (line word : List Char) : Prop :=
  ∃ indent first gap rest, line = indent ++ first ++ gap ++ word ++ rest ∧
    (∀ c ∈ indent, isBlank c = true) ∧ IsWord first ∧ gap ≠ [] ∧ (∀ c ∈ gap, isBlank c = true) ∧
    IsWord word ∧ IsApart rest

/-- A blank stands between words. -/
theorem words_append_cons (h : isBlank b = true) (front back : List Char) :
    words (front ++ b :: back) = words front ++ words back := by
  rw [words, List.splitOnP_append_cons front back h, List.filter_append]
  rfl

/-- Blanks in front of a text do not change its words. -/
theorem words_blanks_append {blanks : List Char} (h : ∀ c ∈ blanks, isBlank c = true)
    (cs : List Char) : words (blanks ++ cs) = words cs := by
  induction blanks with
  | nil => rfl
  | cons b blanks ih =>
      have hb : isBlank b = true := h b List.mem_cons_self
      rw [List.cons_append, ← List.nil_append (b :: (blanks ++ cs)), words_append_cons hb,
        ih fun c hc => h c (List.mem_cons_of_mem b hc)]
      rfl

/-- A word is the first one of a text that it begins. -/
theorem words_word_append (hword : IsWord word) (hrest : IsApart cs) :
    words (word ++ cs) = word :: words cs := by
  have hsingle : words word = [word] := by
    have hne : word.isEmpty = false := by
      rw [Bool.eq_false_iff, ne_eq, List.isEmpty_iff]
      exact hword.ne_nil
    rw [words, List.splitOnP_eq_singleton hword.noBlank]
    exact List.filter_cons_of_pos (by rw [hne]; rfl)
  cases cs with
  | nil => rw [List.append_nil, hsingle]; rfl
  | cons b cs =>
      have hb : isBlank b = true := hrest b rfl
      have htail : words (b :: cs) = words cs := words_append_cons hb [] cs
      rw [words_append_cons hb, hsingle, htail]
      rfl

/-- Behind a run of blanks there is no blank. -/
theorem isBlank_of_head?_dropWhile {c : Char} (h : (cs.dropWhile isBlank).head? = some c) :
    isBlank c = false := by
  have hnot := List.head?_dropWhile_not isBlank cs
  rw [h] at hnot
  simpa using hnot

/-- Behind a run of characters that are not blank there is a blank or nothing. -/
theorem isApart_dropWhile (cs : List Char) : IsApart (cs.dropWhile fun c => !isBlank c) := by
  intro c hc
  have hnot := List.head?_dropWhile_not (fun c => !isBlank c) cs
  rw [hc] at hnot
  simpa using hnot

/-- Such a run is a word if there is one. -/
theorem isWord_takeWhile {c : Char} (hc : isBlank c = false) (cs : List Char) :
    IsWord ((c :: cs).takeWhile fun c => !isBlank c) := by
  constructor
  · simp [List.takeWhile, hc]
  · intro b hb
    simpa using List.all_eq_true.1 List.all_takeWhile b hb

/-- The first word of a text stands behind blanks, and the other words stand behind it. -/
theorem exists_of_words_eq_cons (h : words cs = word :: more) :
    ∃ indent rest, cs = indent ++ word ++ rest ∧ (∀ c ∈ indent, isBlank c = true) ∧ IsWord word ∧
      IsApart rest ∧ words rest = more := by
  have hsplit := List.takeWhile_append_dropWhile (p := isBlank) (l := cs)
  have hblank : ∀ c ∈ cs.takeWhile isBlank, isBlank c = true :=
    List.all_eq_true.1 List.all_takeWhile
  rw [← hsplit, words_blanks_append hblank] at h
  cases htext : cs.dropWhile isBlank with
  | nil =>
      rw [htext] at h
      cases h
  | cons c text =>
      have hfirst := isWord_takeWhile (isBlank_of_head?_dropWhile (by rw [htext]; rfl)) text
      have hrest := isApart_dropWhile (c :: text)
      have hword := List.takeWhile_append_dropWhile (p := fun c => !isBlank c) (l := c :: text)
      rw [htext, ← hword, words_word_append hfirst hrest, List.cons.injEq] at h
      obtain ⟨rfl, hmore⟩ := h
      refine ⟨cs.takeWhile isBlank, _, ?_, hblank, hfirst, hrest, hmore⟩
      rw [List.append_assoc, hword, ← htext, hsplit]

/-- The second word of a text is the one that stands there. -/
theorem isSecondWord_iff {line : List Char} :
    IsSecondWord line second ↔ (words line)[1]? = some second := by
  constructor
  · rintro ⟨indent, first, gap, rest, rfl, hindent, hfirst, hne, hgap, hsecond, hrest⟩
    have hapart : IsApart (gap ++ (second ++ rest)) := by
      intro c hc
      cases gap with
      | nil => exact absurd rfl hne
      | cons b gap =>
          obtain rfl : b = c := Option.some.inj hc
          exact hgap b List.mem_cons_self
    simp only [List.append_assoc]
    rw [words_blanks_append hindent, words_word_append hfirst hapart, words_blanks_append hgap,
      words_word_append hsecond hrest]
    rfl
  · intro h
    match hwords : words line with
    | [] | [_] =>
        rw [hwords] at h
        cases h
    | first :: other :: more =>
        rw [hwords] at h
        obtain rfl : other = second := Option.some.inj h
        obtain ⟨indent, tail, rfl, hindent, hfirst, htail, hmore⟩ := exists_of_words_eq_cons hwords
        obtain ⟨gap, rest, rfl, hgap, hsecond, hrest, -⟩ := exists_of_words_eq_cons hmore
        refine ⟨indent, first, gap, rest, ?_, hindent, hfirst, ?_, hgap, hsecond, hrest⟩
        · simp only [List.append_assoc]
        · rintro rfl
          -- Without a gap the second word would go on where the first one ends.
          cases other with
          | nil => exact hsecond.ne_nil rfl
          | cons c other =>
              have hblank : isBlank c = true := htail c rfl
              rw [hsecond.noBlank c List.mem_cons_self] at hblank
              cases hblank

end Text

namespace Proxy.HttpConnect

open Handshake (Yields yields_pure yields_fail yields_send yields_readByte?)

variable {room : Nat} {read front head stream rest said : Bytes} {outcome : Except IoFault Bytes}

/-! ## Blocks of headers -/

/-- The bytes that end a block of headers: the end of a line, and an empty line. -/
def emptyLine : Bytes := [13, 10, 13, 10]

/-- The block of headers at the beginning of a stream: the shortest part of it that ends in an empty
line. -/
structure IsHead (head stream : Bytes) : Prop where
  begins : head <+: stream
  ends : emptyLine <:+ head
  least : ∀ front, front <+: stream → emptyLine <:+ front → head.length ≤ front.length

/-- The first line of a block of headers. -/
def firstLine (head : Bytes) : List Char :=
  (Text.Utf8.decodeLossy head).takeWhile (· != '\n')

/-- The last bytes are looked at in what was read, last byte first. -/
theorem isPrefixOf_endMark_iff : endMark.isPrefixOf read = true ↔ emptyLine <:+ read.reverse := by
  rw [List.isPrefixOf_iff_prefix, ← List.reverse_prefix, List.reverse_reverse]
  rfl

/-- Reading ends behind an empty line. -/
theorem yields_readHead_of_ends (room : Nat) (read stream : Bytes)
    (h : emptyLine <:+ read.reverse) :
    Yields (readHead room read) stream (.ok read.reverse) stream [] := by
  unfold readHead
  rw [if_pos (isPrefixOf_endMark_iff.2 h)]
  exact yields_pure _ _

/-- A block of headers without an end is too long. -/
theorem yields_readHead_full (read stream : Bytes) (h : ¬ emptyLine <:+ read.reverse) :
    Yields (readHead 0 read) stream (.error ⟨.other, "proxy CONNECT response too large"⟩) stream
      [] := by
  unfold readHead
  rw [if_neg fun hmark => h (isPrefixOf_endMark_iff.1 hmark)]
  exact yields_fail _ _

/-- A stream may end inside a block of headers. -/
theorem yields_readHead_closed (room : Nat) (read : Bytes) (h : ¬ emptyLine <:+ read.reverse) :
    Yields (readHead (room + 1) read) []
      (.error ⟨.other, "proxy closed connection during CONNECT"⟩) [] [] := by
  unfold readHead
  rw [if_neg fun hmark => h (isPrefixOf_endMark_iff.1 hmark)]
  exact (yields_readByte? []).bind (yields_fail _ _)

/-- Otherwise one more byte is read. -/
theorem yields_readHead_cons {b : UInt8} (h : ¬ emptyLine <:+ read.reverse)
    (hnext : Yields (readHead room (b :: read)) stream outcome rest said) :
    Yields (readHead (room + 1) read) (b :: stream) outcome rest said := by
  unfold readHead
  rw [if_neg fun hmark => h (isPrefixOf_endMark_iff.1 hmark)]
  exact (yields_readByte? (b :: stream)).bind hnext

/-- As long as there is no empty line, all bytes are read. -/
theorem yields_readHead_append (read : Bytes)
    (h : ∀ part, part <+: front → part ≠ front → ¬ emptyLine <:+ read.reverse ++ part)
    (hnext : Yields (readHead room (front.reverse ++ read)) stream outcome rest said) :
    Yields (readHead (room + front.length) read) (front ++ stream) outcome rest said := by
  induction front generalizing read with
  | nil => exact hnext
  | cons b front ih =>
      have hnow : ¬ emptyLine <:+ read.reverse := by
        have hnil := h [] List.nil_prefix (List.cons_ne_nil b front).symm
        rwa [List.append_nil] at hnil
      refine yields_readHead_cons hnow (ih (b :: read) (fun part hpart hne => ?_) ?_)
      · rw [List.reverse_cons, List.append_assoc]
        refine h (b :: part) (List.prefix_cons_inj b |>.2 hpart) fun hcons => ?_
        exact hne (List.cons.inj hcons).2
      · rwa [List.reverse_cons, List.append_assoc] at hnext

/-- A part of a block of headers that is not all of it does not end in an empty line. -/
theorem IsHead.not_ends {part : Bytes} (h : IsHead head stream) (hpart : part <+: head)
    (hne : part ≠ head) : ¬ emptyLine <:+ part := by
  intro hends
  have hleast := h.least part (hpart.trans h.begins) hends
  exact hne (hpart.eq_of_length (Nat.le_antisymm hpart.length_le hleast))

/-- A stream without a block of headers has no empty line. -/
theorem exists_isHead (hbegins : front <+: stream) (hends : emptyLine <:+ front) :
    ∃ head, IsHead head stream ∧ head.length ≤ front.length := by
  induction hlength : front.length using Nat.strongRecOn generalizing front with
  | ind n ih =>
      by_cases hleast : ∃ other, other <+: stream ∧ emptyLine <:+ other ∧ other.length < n
      · obtain ⟨other, hother, hends', hlt⟩ := hleast
        obtain ⟨head, hhead, hle⟩ := ih other.length hlt hother hends' rfl
        exact ⟨head, hhead, by omega⟩
      · refine ⟨front, ⟨hbegins, hends, fun other hother hends' => ?_⟩, by omega⟩
        have hle : ¬ other.length < n := fun hlt => hleast ⟨other, hother, hends', hlt⟩
        omega

/-- A stream begins with one block of headers at most. -/
theorem IsHead.unique {other : Bytes} (h : IsHead head stream) (h' : IsHead other stream) :
    head = other := by
  have hle := h.least other h'.begins h'.ends
  have hge := h'.least head h.begins h.ends
  exact (List.prefix_of_prefix_length_le h.begins h'.begins hle).eq_of_length (by omega)

/-- A block of headers that ends behind a limit leaves no empty line in front of it. -/
theorem not_ends_of_lt {limit : Nat} (h : ∀ head, IsHead head stream → limit < head.length)
    (part : Bytes) (hpart : part <+: stream.take limit) : ¬ emptyLine <:+ part := by
  intro hends
  obtain ⟨head, hhead, hle⟩ := exists_isHead (hpart.trans (List.take_prefix limit stream)) hends
  have hlt := h head hhead
  have hlimit := List.length_take_le limit stream
  have hlength := hpart.length_le
  omega

/-- Conversely, without an empty line in front of a limit the block ends behind it. -/
theorem IsHead.lt_length {limit : Nat} (h : IsHead head stream)
    (hnone : ∀ part, part <+: stream.take limit → ¬ emptyLine <:+ part) : limit < head.length := by
  have hnot : ¬ head.length ≤ limit := fun hle =>
    hnone head (List.prefix_take_iff.2 ⟨h.begins, hle⟩) h.ends
  omega

/-- A stream begins with a block of headers within a limit, or has no end of one within the limit,
or ends before the limit without one. -/
theorem isHead_or_long_or_short (limit : Nat) (stream : Bytes) :
    (∃ head, IsHead head stream ∧ head.length ≤ limit) ∨
    (limit ≤ stream.length ∧ ∀ part, part <+: stream.take limit → ¬ emptyLine <:+ part) ∨
    (stream.length < limit ∧ ∀ part, part <+: stream → ¬ emptyLine <:+ part) := by
  by_cases hhead : ∃ head, IsHead head stream ∧ head.length ≤ limit
  · exact .inl hhead
  have hnone : ∀ part, part <+: stream.take limit → ¬ emptyLine <:+ part :=
    not_ends_of_lt fun head h => Nat.lt_of_not_le fun hle => hhead ⟨head, h, hle⟩
  by_cases hlength : limit ≤ stream.length
  · exact .inr (.inl ⟨hlength, hnone⟩)
  · have hall : stream.take limit = stream := List.take_of_length_le (by omega)
    rw [hall] at hnone
    exact .inr (.inr ⟨by omega, hnone⟩)

/-- A block of headers that is not too long is read as it is. -/
theorem yields_readHead_of_isHead (h : IsHead head (head ++ rest)) (hroom : head.length ≤ room) :
    Yields (readHead room []) (head ++ rest) (.ok head) rest [] := by
  have hend := yields_readHead_of_ends (room - head.length) (head.reverse ++ []) rest
    (by simpa using h.ends)
  rw [List.append_nil, List.reverse_reverse] at hend
  have hread := yields_readHead_append [] (fun part hpart hne => ?_) (by rwa [List.append_nil])
  · rwa [Nat.sub_add_cancel hroom] at hread
  · exact h.not_ends hpart hne

/-- Without an end within the limit, reading fails at the limit. -/
theorem yields_readHead_of_long (h : ∀ part, part <+: front → ¬ emptyLine <:+ part)
    (rest : Bytes) :
    Yields (readHead front.length []) (front ++ rest)
      (.error ⟨.other, "proxy CONNECT response too large"⟩) rest [] := by
  have hfull := yields_readHead_full (front.reverse ++ []) rest
    (by simpa using h front (List.prefix_refl front))
  have hread := yields_readHead_append [] (fun part hpart _ => h part hpart) hfull
  rwa [Nat.zero_add] at hread

/-- Without an end within the stream, reading fails at the end of the stream. -/
theorem yields_readHead_of_short (h : ∀ part, part <+: stream → ¬ emptyLine <:+ part)
    (hroom : stream.length < room) :
    Yields (readHead room []) stream
      (.error ⟨.other, "proxy closed connection during CONNECT"⟩) [] [] := by
  have hclosed := yields_readHead_closed (room - stream.length - 1) (stream.reverse ++ [])
    (by simpa using h stream (List.prefix_refl stream))
  have hread := yields_readHead_append [] (fun part hpart _ => h part hpart) hclosed
  rw [List.append_nil] at hread
  have hsum : room - stream.length - 1 + 1 + stream.length = room := by omega
  rwa [hsum] at hread

/-! ## The handshake -/

/-- The end of a line is a blank, so that it does not belong to a word. -/
theorem words_statusLine (head : Bytes) :
    Text.words (statusLine head) = Text.words (firstLine head) := by
  show Text.words (if (firstLine head).getLast? = some '\r' then (firstLine head).dropLast
    else firstLine head) = _
  split
  · rename_i hlast
    obtain ⟨line, hline⟩ := List.getLast?_eq_some_iff.1 hlast
    have hblank : Text.isBlank '\r' = true := by decide
    rw [hline, List.dropLast_concat, Text.words_append_cons hblank]
    exact (List.append_nil _).symm
  · rfl

/-- A tunnel is granted by the second word of the first line. -/
theorem statusOf_eq_iff (head : Bytes) :
    statusOf (statusLine head) = ['2', '0', '0'] ↔
      Text.IsSecondWord (firstLine head) ['2', '0', '0'] := by
  rw [Text.isSecondWord_iff, statusOf, words_statusLine, List.getD_eq_getElem?_getD]
  cases (Text.words (firstLine head))[1]? <;> simp

variable {fault : IoFault}

/-- The tunnel is open if the block of headers grants it. -/
theorem yields_run_of_head (host : String) (port : UInt16) (login : Option Login)
    (hread : Yields (readHead maxHead []) stream (.ok head) rest []) :
    Yields (run host port login) stream
      (if statusOf (statusLine head) = ['2', '0', '0'] then .ok ()
        else .error ⟨.other, "proxy CONNECT refused: " ++ String.ofList (statusLine head)⟩)
      rest (request host port login) := by
  have hanswer : Yields (if statusOf (statusLine head) = ['2', '0', '0'] then Pure.pure ()
      else Handshake.fail ("proxy CONNECT refused: " ++ String.ofList (statusLine head))) rest
      (if statusOf (statusLine head) = ['2', '0', '0'] then .ok ()
        else .error ⟨.other, "proxy CONNECT refused: " ++ String.ofList (statusLine head)⟩)
      rest [] := by
    split
    · exact yields_pure _ _
    · exact yields_fail _ _
  have hrun : Yields (run host port login) stream _ rest (request host port login ++ ([] ++ [])) :=
    (yields_send (request host port login) stream).bind (hread.bind hanswer)
  rwa [List.append_nil, List.append_nil] at hrun

/-- Without a block of headers the handshake fails. -/
theorem yields_run_of_fault (host : String) (port : UInt16) (login : Option Login)
    (hread : Yields (readHead maxHead []) stream (.error fault) rest []) :
    Yields (run host port login) stream (.error fault) rest (request host port login) := by
  have hrun : Yields (run host port login) stream (.error fault) rest
      (request host port login ++ []) :=
    (yields_send (request host port login) stream).bind hread.bind_error
  rwa [List.append_nil] at hrun

section

variable (host : String) (port : UInt16) (login : Option Login) {d : Duplex}

/-- A block of headers within the limit is consumed, and decides. -/
theorem run_of_isHead (hhead : IsHead head d.unread) (hle : head.length ≤ 8192) :
    d.unread = head ++ (run host port login d).2.unread ∧
      ((run host port login d).1 = .ok () ↔
        Text.IsSecondWord (firstLine head) ['2', '0', '0']) := by
  obtain ⟨rest, hstream⟩ := hhead.begins
  have hread : Yields (readHead maxHead []) d.unread (.ok head) rest [] := by
    rw [← hstream] at hhead ⊢
    exact yields_readHead_of_isHead hhead hle
  obtain ⟨houtcome, hrest, -⟩ := yields_run_of_head host port login hread d rfl
  rw [houtcome, hrest, ← statusOf_eq_iff]
  refine ⟨hstream.symm, ?_⟩
  split
  · simpa
  · simpa

/-- Without an empty line within the limit, all bytes within it are consumed. -/
theorem run_of_long (hlong : 8192 ≤ d.unread.length)
    (hnone : ∀ part, part <+: d.unread.take 8192 → ¬ emptyLine <:+ part) :
    (∃ fault, (run host port login d).1 = .error fault) ∧
      (run host port login d).2.unread = d.unread.drop 8192 := by
  have hlength : (d.unread.take 8192).length = maxHead := by
    rw [List.length_take]
    exact Nat.min_eq_left hlong
  have hread := yields_readHead_of_long hnone (d.unread.drop 8192)
  rw [hlength, List.take_append_drop] at hread
  obtain ⟨houtcome, hrest, -⟩ := yields_run_of_fault host port login hread d rfl
  exact ⟨⟨_, houtcome⟩, hrest⟩

/-- Without an empty line in a stream that ends within the limit, all bytes are consumed. -/
theorem run_of_short (hshort : d.unread.length < 8192)
    (hnone : ∀ part, part <+: d.unread → ¬ emptyLine <:+ part) :
    (∃ fault, (run host port login d).1 = .error fault) ∧
      (run host port login d).2.unread = [] := by
  have hread : Yields (readHead maxHead []) d.unread _ [] [] :=
    yields_readHead_of_short hnone hshort
  obtain ⟨houtcome, hrest, -⟩ := yields_run_of_fault host port login hread d rfl
  exact ⟨⟨_, houtcome⟩, hrest⟩

/-- No byte behind a block of headers is consumed, whether the tunnel is open or not. -/
theorem exists_consumed (d : Duplex) :
    ∃ consumed, d.unread = consumed ++ (run host port login d).2.unread ∧
      ∀ head, IsHead head d.unread → consumed <+: head := by
  rcases isHead_or_long_or_short 8192 d.unread with
    ⟨head, hhead, hle⟩ | ⟨hlong, hnone⟩ | ⟨hshort, hnone⟩
  · refine ⟨head, (run_of_isHead host port login hhead hle).1, ?_⟩
    intro other hother
    obtain rfl := hhead.unique hother
    exact List.prefix_refl head
  · refine ⟨d.unread.take 8192, ?_, ?_⟩
    · rw [(run_of_long host port login hlong hnone).2, List.take_append_drop]
    · intro head hhead
      have hlt := hhead.lt_length hnone
      refine List.prefix_of_prefix_length_le (List.take_prefix _ _) hhead.begins ?_
      rw [List.length_take]
      omega
  · refine ⟨d.unread, ?_, ?_⟩
    · rw [(run_of_short host port login hshort hnone).2, List.append_nil]
    · intro head hhead
      exact absurd hhead.ends (hnone head hhead.begins)

/-- A block of headers of at most 8192 bytes is consumed, and nothing behind it; the tunnel is
open exactly if the second word of its first line is 200. If the first 8192 bytes have no end of
such a block, the handshake fails at the limit, and if the stream ends before, it fails as well.
In no case is a byte behind the block consumed. All of this does not depend on the fragments of
the stream. -/
theorem header_block_alone_is_consumed (d : Duplex) :
    (∀ head, IsHead head d.unread → head.length ≤ 8192 →
      d.unread = head ++ (run host port login d).2.unread ∧
        ((run host port login d).1 = .ok () ↔
          Text.IsSecondWord (firstLine head) ['2', '0', '0'])) ∧
    (8192 ≤ d.unread.length → (∀ head, IsHead head d.unread → 8192 < head.length) →
      (∃ fault, (run host port login d).1 = .error fault) ∧
        (run host port login d).2.unread = d.unread.drop 8192) ∧
    (d.unread.length < 8192 → (∀ head, ¬ IsHead head d.unread) →
      ∃ fault, (run host port login d).1 = .error fault) ∧
    ∃ consumed, d.unread = consumed ++ (run host port login d).2.unread ∧
      ∀ head, IsHead head d.unread → consumed <+: head := by
  refine ⟨?_, ?_, ?_, exists_consumed host port login d⟩
  · intro head hhead hle
    exact run_of_isHead host port login hhead hle
  · intro hlong hfar
    exact run_of_long host port login hlong (not_ends_of_lt hfar)
  · intro hshort hno
    refine (run_of_short host port login hshort ?_).1
    intro part hpart hends
    obtain ⟨head, hhead, -⟩ := exists_isHead hpart hends
    exact hno head hhead

end

/-- The answer `HTTP/1.1 200 OK`, whose last byte arrives together with the first ones of the
tunnel. -/
theorem tunnel_begins_behind_header_block :
    let answer : Bytes := [72, 84, 84, 80, 47, 49, 46, 49, 32, 50, 48, 48, 32, 79, 75, 13, 10, 13]
    let d : Duplex := ⟨[answer, [10, 22, 3]], []⟩
    IsHead (answer ++ [10]) d.unread ∧ (run "localhost" 443 none d).1 = .ok () ∧
      (run "localhost" 443 none d).2.unread = [22, 3] := by
  intro answer d
  have hnone : ∀ n < 19, ¬ emptyLine <:+ d.unread.take n := by decide
  have hhead : IsHead (answer ++ [10]) d.unread := by
    refine ⟨⟨[22, 3], by decide⟩, by decide, fun front hfront hends => ?_⟩
    have hlength : ¬ front.length < 19 := fun hlt => hnone _ hlt <| by
      rwa [← List.prefix_iff_eq_take.1 hfront]
    exact Nat.le_of_not_lt hlength
  obtain ⟨hblock, -, -, -⟩ := header_block_alone_is_consumed "localhost" 443 none d
  obtain ⟨hrest, hok⟩ := hblock _ hhead (by decide)
  have hstream : d.unread = answer ++ [10] ++ [22, 3] := by decide
  refine ⟨hhead, hok.2 (Text.isSecondWord_iff.2 (by decide +kernel)), ?_⟩
  exact (List.append_cancel_left (hstream.symm.trans hrest)).symm

end Proxy.HttpConnect

end MalwareScan
