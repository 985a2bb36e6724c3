import MalwareScan.Proxy.Duplex

/-!
# Handshakes and the stream they read

The proxy's bytes arrive in fragments. `Handshake.Yields` says what a part of a handshake makes of
a stream, whatever its fragments: how it ends, what it leaves unread and what it sends. The reads
yield the front of the stream (`yields_readByte?`, `yields_readExact`), and `Yields.bind` puts the
parts of a handshake together.
-/

namespace MalwareScan.Proxy

namespace Duplex

/-- A read gives the beginning of the stream, and nothing only at its end. -/
theorem readSome_spec (count : Nat) (fragments : List Bytes) :
    (readSome count fragments).1 ++ (readSome count fragments).2.flatten = fragments.flatten ∧
      (readSome count fragments).1.length ≤ count ∧
      (0 < count → (readSome count fragments).1 = [] → fragments.flatten = []) := by
  induction fragments with
  | nil => simp [readSome]
  | cons fragment fragments ih =>
      cases fragment with
      | nil => simpa [readSome] using ih
      | cons b fragment =>
          simp only [readSome, List.flatten_cons, ← List.append_assoc, List.take_append_drop,
            true_and]
          refine ⟨List.length_take_le _ _, fun hcount hnil => ?_⟩
          rcases List.take_eq_nil_iff.1 hnil with hzero | hcons
          · omega
          · cases hcons

/-- A read of one byte takes the first byte of the stream. -/
theorem readSome_one (fragments : List Bytes) :
    (readSome 1 fragments).1 = fragments.flatten.take 1 ∧
      (readSome 1 fragments).2.flatten = fragments.flatten.drop 1 := by
  obtain ⟨hsplit, hlength, hnil⟩ := readSome_spec 1 fragments
  generalize readSome 1 fragments = result at *
  obtain ⟨front, rest⟩ := result
  match front with
  | [] =>
      have hempty := hnil (by omega) rfl
      have hrest : rest.flatten = fragments.flatten := hsplit
      rw [hrest, hempty]
      exact ⟨rfl, rfl⟩
  | [b] => simp [← hsplit]
  | _ :: _ :: _ => simp at hlength

/-- Reading on takes as much of the stream as was asked for, or all of it. -/
theorem readUpTo_spec {fuel count : Nat} (h : count ≤ fuel) (fragments : List Bytes) :
    (readUpTo fuel count fragments).1 = fragments.flatten.take count ∧
      (readUpTo fuel count fragments).2.flatten = fragments.flatten.drop count := by
  induction fuel generalizing count fragments with
  | zero =>
      obtain rfl : count = 0 := by omega
      simp [readUpTo]
  | succ fuel ih =>
      obtain ⟨hsplit, hlength, hnil⟩ := readSome_spec count fragments
      unfold readUpTo
      generalize readSome count fragments = result at *
      obtain ⟨front, rest⟩ := result
      by_cases hcount : count = 0
      · simp [hcount]
      · simp only [hcount, if_false]
        cases front with
        | nil =>
            have hempty := hnil (by omega) rfl
            have hrest : rest.flatten = fragments.flatten := hsplit
            simp [hrest, hempty]
        | cons b front =>
            -- What the first read leaves to be read is less, so that the fuel is enough for it.
            have hmore : count - (b :: front).length ≤ fuel := by
              rw [List.length_cons]
              omega
            obtain ⟨hread, hrest⟩ := ih hmore rest
            simp only [List.isEmpty_cons, Bool.false_eq_true, if_false, hread, hrest, ← hsplit]
            rw [List.take_append, List.drop_append, List.take_of_length_le hlength,
              List.drop_eq_nil_of_le hlength]
            exact ⟨rfl, rfl⟩

end Duplex

namespace Handshake

variable {α β : Type} {part : Handshake α} {next : α → Handshake β} {x : α} {y : Except IoFault β}
  {outcome : Except IoFault α} {fault : IoFault} {stream rest rest' said said' : Bytes}

/-- What a part of a handshake makes of a stream, in whatever fragments it arrives: how the part
ends, what it leaves unread, and what it sends. -/
def Yields (part : Handshake α) (stream : Bytes) (outcome : Except IoFault α) (rest said : Bytes) :
    Prop :=
  ∀ d : Duplex, d.unread = stream → (part d).1 = outcome ∧ (part d).2.unread = rest ∧
    (part d).2.sent = d.sent ++ said

/-- A part that does nothing leaves the stream as it is. -/
theorem yields_pure (x : α) (stream : Bytes) :
    Yields (Pure.pure x : Handshake α) stream (.ok x) stream [] := by
  intro d hd
  exact ⟨rfl, hd, (List.append_nil _).symm⟩

/-- A part that fails reads nothing. -/
theorem yields_fail (text : String) (stream : Bytes) :
    Yields (fail text : Handshake α) stream (.error ⟨.other, text⟩) stream [] := by
  intro d hd
  exact ⟨rfl, hd, (List.append_nil _).symm⟩

/-- Sending reads nothing. -/
theorem yields_send (bytes stream : Bytes) : Yields (send bytes) stream (.ok ()) stream bytes := by
  intro d hd
  exact ⟨rfl, hd, rfl⟩

/-- A byte is read from the front of the stream. -/
theorem yields_readByte? (stream : Bytes) :
    Yields readByte? stream (.ok stream.head?) stream.tail [] := by
  intro d hd
  obtain ⟨hread, hrest⟩ := Duplex.readSome_one d.incoming
  have hstream : d.incoming.flatten = stream := hd
  refine ⟨?_, ?_, (List.append_nil _).symm⟩
  · show Except.ok (Duplex.readSome 1 d.incoming).1.head? = _
    rw [hread, hstream]
    cases stream <;> rfl
  · show (Duplex.readSome 1 d.incoming).2.flatten = _
    rw [hrest, hstream, List.drop_one]

/-- An exact read takes what was asked for from the front of the stream. -/
theorem yields_readExact {count : Nat} {front : Bytes} (h : front.length = count) (rest : Bytes) :
    Yields (readExact count) (front ++ rest) (.ok front) rest [] := by
  intro d hd
  obtain ⟨hread, hrest⟩ := Duplex.readUpTo_spec (Nat.le_refl count) d.incoming
  have hstream : d.incoming.flatten = front ++ rest := hd
  rw [hstream] at hread hrest
  rw [← h, List.take_left] at hread
  rw [← h, List.drop_left] at hrest
  have henough : ¬ (Duplex.readUpTo count count d.incoming).1.length < count := by
    rw [← h, hread]
    omega
  rw [h] at hread hrest
  simp only [readExact, if_neg henough]
  exact ⟨congrArg Except.ok hread, hrest, (List.append_nil _).symm⟩

/-- An exact read of more than there is fails, and nothing is left. -/
theorem yields_readExact_short {count : Nat} (h : stream.length < count) :
    Yields (readExact count) stream (.error ⟨.unexpectedEof, "early eof"⟩) [] [] := by
  intro d hd
  obtain ⟨hread, hrest⟩ := Duplex.readUpTo_spec (Nat.le_refl count) d.incoming
  have hstream : d.incoming.flatten = stream := hd
  rw [hstream, List.take_of_length_le (Nat.le_of_lt h)] at hread
  rw [hstream, List.drop_eq_nil_of_le (Nat.le_of_lt h)] at hrest
  have hshort : (Duplex.readUpTo count count d.incoming).1.length < count := by rwa [hread]
  simp only [readExact, if_pos hshort]
  exact ⟨trivial, hrest, (List.append_nil _).symm⟩

namespace Yields

/-- One part after the other: the second one reads what the first one left. -/
protected theorem bind (hpart : Yields part stream (.ok x) rest said)
    (hnext : Yields (next x) rest y rest' said') :
    Yields (part >>= next) stream y rest' (said ++ said') := by
  intro d hd
  obtain ⟨houtcome, hrest, hsaid⟩ := hpart d hd
  have hbind : (part >>= next) d = next x (part d).2 := by
    show Handshake.bind part next d = _
    unfold Handshake.bind
    generalize part d = result at *
    obtain ⟨_, after⟩ := result
    cases houtcome
    rfl
  obtain ⟨houtcome', hrest', hsaid'⟩ := hnext (part d).2 hrest
  rw [hbind, houtcome', hrest', hsaid', hsaid, List.append_assoc]
  exact ⟨rfl, rfl, rfl⟩

/-- After a failure there is no second part. -/
theorem bind_error (hpart : Yields part stream (.error fault) rest said) :
    Yields (part >>= next) stream (.error fault) rest said := by
  intro d hd
  obtain ⟨houtcome, hrest, hsaid⟩ := hpart d hd
  have hbind : (part >>= next) d = (.error fault, (part d).2) := by
    show Handshake.bind part next d = _
    unfold Handshake.bind
    generalize part d = result at *
    obtain ⟨_, after⟩ := result
    cases houtcome
    rfl
  rw [hbind]
  exact ⟨rfl, hrest, hsaid⟩

/-- A stream determines what a part makes of it. -/
theorem unique {outcome' : Except IoFault α} (h : Yields part stream outcome rest said)
    (h' : Yields part stream outcome' rest' said') :
    outcome = outcome' ∧ rest = rest' ∧ said = said' := by
  have hstream : (Duplex.mk [stream] []).unread = stream := by
    show [stream].flatten = stream
    exact List.flatten_singleton
  obtain ⟨houtcome, hrest, hsaid⟩ := h _ hstream
  obtain ⟨houtcome', hrest', hsaid'⟩ := h' _ hstream
  refine ⟨houtcome.symm.trans houtcome', hrest.symm.trans hrest', ?_⟩
  exact List.append_cancel_left (hsaid.symm.trans hsaid')

end Yields

/-- A part of a handshake fails on a stream, after it has sent something. -/
def Fails (part : Handshake α) (stream said : Bytes) : Prop :=
  ∃ fault rest, Yields part stream (.error fault) rest said

/-- A part that fails has sent nothing. -/
theorem fails_fail (text : String) (stream : Bytes) :
    Fails (fail text : Handshake α) stream [] :=
  ⟨_, _, yields_fail text stream⟩

/-- An exact read of more than there is fails. -/
theorem fails_readExact {count : Nat} (h : stream.length < count) :
    Fails (readExact count) stream [] :=
  ⟨_, _, yields_readExact_short h⟩

/-- What begins with a failing part fails. -/
theorem Fails.bind (h : Fails part stream said) : Fails (part >>= next) stream said := by
  obtain ⟨fault, rest, hpart⟩ := h
  exact ⟨fault, rest, hpart.bind_error⟩

/-- What goes on with a failing part fails. -/
theorem Yields.bind_fails (hpart : Yields part stream (.ok x) rest said)
    (hnext : Fails (next x) rest said') : Fails (part >>= next) stream (said ++ said') := by
  obtain ⟨fault, rest', hfails⟩ := hnext
  exact ⟨fault, rest', hpart.bind hfails⟩

/-- To fail is to fail on every connection over which the stream arrives. -/
theorem Fails.exists_error (h : Fails part stream said) (d : Duplex) (hd : d.unread = stream) :
    ∃ fault, (part d).1 = .error fault := by
  obtain ⟨fault, rest, hpart⟩ := h
  exact ⟨fault, (hpart d hd).1⟩

end Handshake

end MalwareScan.Proxy
