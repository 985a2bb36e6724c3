import MalwareScan.Proofs.Proxy.SentMessages

/-!
# Versions in the answers of a SOCKS5 proxy

Each of the proxy's answers begins with a version: its choice of a method and its reply to the
request with that of the protocol, and its answer to the login with that of the negotiation of
logins. `IsValidTranscript` wants all of them to be right. A handshake looks at the first one
only: it succeeds for exactly the streams that begin with a transcript whose other versions may be
anything (`run_eq_ok_iff`). The main theorem is `accepts_valid_transcript_iff`.
-/

namespace MalwareScan.Proxy.Socks5

open Handshake (Yields)

variable {login : Option Login} {l : Login} {host : String} {port : UInt16}
  {stream transcript reply : Bytes} {d : Duplex}

/-- The version of the negotiation of logins. -/
def loginVersion : UInt8 := 1

/-- What a proxy sends that opens a tunnel, as the protocol says: it chooses a method that was
offered, accepts the login if that is the method with one, and grants the request. -/
inductive IsValidTranscript (login : Option Login) : Bytes → Prop where
  | free (reply : Bytes) : IsReply reply → reply.head? = some version →
      IsValidTranscript login ([version, noLogin] ++ reply)
  | accepted (reply : Bytes) : login.isSome → IsReply reply → reply.head? = some version →
      IsValidTranscript login ([version, withLogin] ++ ([loginVersion, 0] ++ reply))

/-- The version in the proxy's answer to the login, if there is one. -/
def answeredVersion? (stream : Bytes) : Option UInt8 :=
  if chosen? stream = some withLogin then stream[2]? else none

/-- The version in the proxy's reply to the request, which stands behind the choice of a method and
behind the answer to the login. -/
def repliedVersion? (stream : Bytes) : Option UInt8 :=
  if chosen? stream = some withLogin then stream[4]? else stream[2]?

/-! ## Streams that open a tunnel -/

/-- The method is chosen at the beginning of a transcript. -/
theorem IsTranscript.chosen?_append (h : IsTranscript transcript) (rest : Bytes) :
    chosen? (transcript ++ rest) = chosen? transcript := by
  cases h <;> rfl

/-- A handshake succeeds exactly if the stream begins with a transcript and the client can write the
messages that it takes. -/
theorem run_eq_ok_iff (host : String) (port : UInt16) (login : Option Login) (d : Duplex) :
    (run host port login d).1 = .ok () ↔
      HostFits host ∧ ∃ transcript, IsTranscript transcript ∧ transcript <+: d.unread ∧
        (chosen? transcript = some withLogin → ∃ l, login = some l ∧ l.Fits) := by
  constructor
  · intro hok
    have hnotFailed : ¬ ∃ fault, (run host port login d).1 = .error fault := by
      rw [hok]
      rintro ⟨fault, hfault⟩
      cases hfault
    refine ⟨?_, ?_⟩
    · by_contra hhost
      obtain ⟨_, _, outcome, _, -, -, hrun, hfault⟩ := yields_run host port login d.unread
      rw [(hrun d rfl).1] at hnotFailed
      exact hnotFailed (hfault hhost)
    · rcases isTranscript_or_fails host port login d.unread with
        ⟨transcript, rest, said, htranscript, hlogin, hstream, -⟩ | ⟨said, hfails⟩
      · refine ⟨transcript, htranscript, ⟨rest, hstream.symm⟩, fun hchosen => ?_⟩
        obtain ⟨l, rfl⟩ := Option.isSome_iff_exists.1 (hlogin hchosen)
        refine ⟨l, rfl, ?_⟩
        by_contra hfits
        rw [← htranscript.chosen?_append rest, ← hstream] at hchosen
        obtain ⟨told, -, hfails⟩ :=
          fails_run_of_not_admits (not_admits_of_not_fits hfits hchosen) host port
        exact hnotFailed (hfails.exists_error d rfl)
      · exact absurd (hfails.exists_error d rfl) hnotFailed
  · rintro ⟨hhost, transcript, htranscript, ⟨rest, hstream⟩, hlogin⟩
    obtain ⟨said, hrun⟩ := yields_run_of_isTranscript htranscript hhost hlogin port rest
    exact (hrun d hstream.symm).1

/-! ## Transcripts with the right versions -/

/-- A reply begins with a version. -/
theorem IsReply.exists_eq_cons (h : IsReply reply) : ∃ answered tail, reply = answered :: tail := by
  cases h <;> exact ⟨_, _, rfl⟩

/-- A valid transcript is one that is followed. -/
theorem IsValidTranscript.isTranscript (h : IsValidTranscript login transcript) :
    IsTranscript transcript := by
  cases h with
  | free reply hreply => exact .free reply hreply
  | accepted reply _ hreply => exact .accepted loginVersion reply hreply

/-- Its versions are right. -/
theorem IsValidTranscript.versions (h : IsValidTranscript login transcript) :
    (∀ v, answeredVersion? transcript = some v → v = loginVersion) ∧
      repliedVersion? transcript = some version := by
  cases h with
  | free reply hreply hversion =>
      obtain ⟨replied, tail, rfl⟩ := hreply.exists_eq_cons
      exact ⟨nofun, hversion⟩
  | accepted reply _ hreply hversion =>
      obtain ⟨replied, tail, rfl⟩ := hreply.exists_eq_cons
      exact ⟨fun v hv => (Option.some.inj hv).symm, hversion⟩

/-- A transcript whose versions are right is valid, if a login is answered only where there is
one. -/
theorem IsTranscript.isValidTranscript (h : IsTranscript transcript)
    (hlogin : chosen? transcript = some withLogin → login.isSome)
    (hanswered : ∀ v, answeredVersion? transcript = some v → v = loginVersion)
    (hreplied : repliedVersion? transcript = some version) :
    IsValidTranscript login transcript := by
  cases h with
  | free reply hreply =>
      obtain ⟨replied, tail, rfl⟩ := hreply.exists_eq_cons
      exact .free _ hreply hreplied
  | accepted answered reply hreply =>
      obtain ⟨replied, tail, rfl⟩ := hreply.exists_eq_cons
      obtain rfl := hanswered answered rfl
      exact .accepted _ (hlogin rfl) hreply hreplied

/-- The versions stand in a transcript, whatever follows it. -/
theorem IsTranscript.versions_append (h : IsTranscript transcript) (rest : Bytes) :
    answeredVersion? (transcript ++ rest) = answeredVersion? transcript ∧
      repliedVersion? (transcript ++ rest) = repliedVersion? transcript := by
  cases h with
  | free reply hreply =>
      obtain ⟨answered, tail, rfl⟩ := hreply.exists_eq_cons
      exact ⟨rfl, rfl⟩
  | accepted answered reply hreply =>
      obtain ⟨replied, tail, rfl⟩ := hreply.exists_eq_cons
      exact ⟨rfl, rfl⟩

/-- A handshake succeeds exactly for the streams that begin with a transcript and whose messages
can be written; every other stream makes it fail, the ones with another version in the choice of a
method among them. The transcript of a handshake that succeeds is valid exactly if the versions in
the answer to the login and in the reply are right, which nothing makes sure of. -/
theorem accepts_valid_transcript_iff (host : String) (port : UInt16) (login : Option Login)
    (d : Duplex) :
    ((run host port login d).1 = .ok () ↔
      HostFits host ∧ ∃ transcript, IsTranscript transcript ∧ transcript <+: d.unread ∧
        (chosen? transcript = some withLogin → ∃ l, login = some l ∧ l.Fits)) ∧
    (d.unread.head? ≠ some version → ∃ fault, (run host port login d).1 = .error fault) ∧
    ((run host port login d).1 = .ok () →
      ((∃ transcript, IsValidTranscript login transcript ∧ transcript <+: d.unread) ↔
        (∀ v, answeredVersion? d.unread = some v → v = loginVersion) ∧
          repliedVersion? d.unread = some version)) := by
  refine ⟨run_eq_ok_iff host port login d, ?_, ?_⟩
  · intro hversion
    cases hrun : (run host port login d).1 with
    | error fault => exact ⟨fault, rfl⟩
    | ok =>
        obtain ⟨-, transcript, htranscript, ⟨rest, hstream⟩, -⟩ :=
          (run_eq_ok_iff host port login d).1 hrun
        refine absurd ?_ hversion
        rw [← hstream]
        cases htranscript <;> rfl
  · intro hok
    obtain ⟨-, transcript, htranscript, ⟨rest, hstream⟩, hlogin⟩ :=
      (run_eq_ok_iff host port login d).1 hok
    have hsome : chosen? transcript = some withLogin → login.isSome := fun hchosen => by
      obtain ⟨l, rfl, -⟩ := hlogin hchosen
      rfl
    obtain ⟨hsameAnswered, hsameReplied⟩ := htranscript.versions_append rest
    rw [← hstream, hsameAnswered, hsameReplied]
    constructor
    · rintro ⟨valid, hvalid, hfront⟩
      -- Of two transcripts at the beginning of one stream each is the beginning of the other one.
      obtain rfl : valid = transcript := by
        rcases List.prefix_or_prefix_of_prefix hfront
          (List.prefix_append transcript rest) with h | h
        · exact hvalid.isTranscript.eq_of_prefix htranscript h
        · exact (htranscript.eq_of_prefix hvalid.isTranscript h).symm
      exact hvalid.versions
    · rintro ⟨hanswered, hreplied⟩
      exact ⟨transcript, htranscript.isValidTranscript hsome hanswered hreplied,
        List.prefix_append transcript rest⟩

/-- A proxy that accepts a login and grants the request with the right versions. -/
theorem accepts_valid_transcript_of_login :
    let d : Duplex := ⟨[[5, 2, 1], [0, 5, 0, 0, 1, 127, 0, 0, 1, 4, 56]], []⟩
    (run "scanner.example.com" 443 (some ⟨"al", "pw"⟩) d).1 = .ok () ∧
      ∃ transcript, IsValidTranscript (some ⟨"al", "pw"⟩) transcript ∧ transcript <+: d.unread := by
  intro d
  have hreply : IsReply [5, 0, 0, 1, 127, 0, 0, 1, 4, 56] := .v4 5 0 [127, 0, 0, 1] [4, 56] rfl rfl
  obtain ⟨haccepts, -, hvalid⟩ :=
    accepts_valid_transcript_iff "scanner.example.com" 443 (some ⟨"al", "pw"⟩) d
  have hok := haccepts.2 ⟨.inr (by decide), _, .accepted 1 _ hreply, List.prefix_refl _,
    fun _ => ⟨_, rfl, by decide, by decide⟩⟩
  exact ⟨hok, (hvalid hok).2 ⟨fun v hv => (Option.some.inj hv).symm, rfl⟩⟩

/-- A reply of another version is taken, and so is an answer to the login of another version. -/
theorem accepts_other_versions :
    ¬ ∀ (host : String) (port : UInt16) (login : Option Login) (d : Duplex),
      (run host port login d).1 = .ok () →
        ∃ transcript, IsValidTranscript login transcript ∧ transcript <+: d.unread := by
  intro h
  have hreply : IsReply [4, 0, 0, 1, 127, 0, 0, 1, 4, 56] := .v4 4 0 [127, 0, 0, 1] [4, 56] rfl rfl
  have hok := (run_eq_ok_iff "scanner.example.com" 443 none
    ⟨[[5, 0, 4, 0, 0, 1, 127, 0, 0, 1, 4, 56]], []⟩).2
    ⟨.inr (by decide), _, .free _ hreply, List.prefix_refl _, nofun⟩
  obtain ⟨transcript, hvalid, rest, hstream⟩ := h _ _ _ _ hok
  have hversion := hvalid.versions.2
  rw [← (hvalid.isTranscript.versions_append rest).2, hstream] at hversion
  revert hversion
  decide

end MalwareScan.Proxy.Socks5
