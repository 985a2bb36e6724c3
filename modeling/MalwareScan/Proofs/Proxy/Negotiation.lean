import MalwareScan.Proofs.Proxy.Streams
import MalwareScan.Proxy.Socks5

/-!
# How a SOCKS5 proxy lets a client through

The proxy's stream decides the handshake: it lets the client in (`Admits`), perhaps after a login,
and then replies to the request (`IsReply`). `yields_run_of_admits` and `fails_run_of_not_admits`
say for every stream what the client has sent by then. The main theorem,
`handshake_consumes_transcript`, says which bytes a handshake that succeeds has consumed, and that
no shorter stream is enough.
-/

namespace MalwareScan.Proxy

/-- A message can carry the user and the password: the length of each fits one byte. -/
structure Login.Fits (login : Login) : Prop where
  user : (Text.Utf8.encode login.user).length ≤ 255
  password : (Text.Utf8.encode login.password).length ≤ 255

namespace Socks5

open Handshake (Yields Fails yields_pure yields_send yields_readExact fails_fail fails_readExact)

variable {login : Option Login} {l : Login} {host : String} {port : UInt16} {method : UInt8}
  {stream rest rest' said reply transcript bytes : Bytes} {outcome : Except IoFault Unit}

/-- A stream that is long enough begins with two bytes. -/
theorem exists_two (h : 2 ≤ stream.length) : ∃ a b tail, stream = [a, b] ++ tail := by
  match stream, h with
  | a :: b :: tail, _ => exact ⟨a, b, tail, rfl⟩

/-! ## Messages that can be written -/

/-- A text behind its length. -/
def counted (bytes : Bytes) : Bytes :=
  UInt8.ofNat bytes.length :: bytes

/-- A text is written if its length fits one byte. -/
theorem counted?_of_le (h : bytes.length ≤ 255) : counted? bytes = some (counted bytes) :=
  if_pos (Nat.lt_succ_of_le h)

/-- A longer text is not written. -/
theorem counted?_of_lt (h : 255 < bytes.length) : counted? bytes = none :=
  if_neg (Nat.not_lt.2 h)

/-- The message with the user and the password. -/
def loginBytes (login : Login) : Bytes :=
  1 :: (counted (Text.Utf8.encode login.user) ++ counted (Text.Utf8.encode login.password))

/-- A login that fits is written. -/
theorem loginMessage_of_fits (h : l.Fits) : loginMessage l = .ok (loginBytes l) := by
  rw [loginMessage, counted?_of_le h.user, counted?_of_le h.password]
  rfl

/-- A login that does not fit is not written, not even in part. -/
theorem loginMessage_of_not_fits (h : ¬ l.Fits) : ∃ text, loginMessage l = .error text := by
  by_cases huser : (Text.Utf8.encode l.user).length ≤ 255
  · by_cases hpassword : (Text.Utf8.encode l.password).length ≤ 255
    · exact absurd ⟨huser, hpassword⟩ h
    · refine ⟨"SOCKS5 password too long", ?_⟩
      rw [loginMessage, counted?_of_le huser, counted?_of_lt (by omega)]
  · refine ⟨"SOCKS5 username too long", ?_⟩
    rw [loginMessage, counted?_of_lt (by omega)]

/-- A request can carry the host: it is an address, or a name whose length fits one byte. -/
def HostFits (host : String) : Prop :=
  (Net.IpAddress.parse? host.toList).isSome ∨ (Text.Utf8.encode host).length ≤ 255

/-- A request for a host that fits is written. -/
theorem connectMessage_of_fits (h : HostFits host) (port : UInt16) :
    ∃ bytes, connectMessage host port = .ok bytes := by
  unfold connectMessage hostBytes?
  cases hparse : Net.IpAddress.parse? host.toList with
  | some ip => cases ip <;> exact ⟨_, rfl⟩
  | none =>
      have hle : (Text.Utf8.encode host).length ≤ 255 :=
        h.resolve_left fun hsome => by simp [hparse] at hsome
      rw [counted?_of_le hle]
      exact ⟨_, rfl⟩

/-- A request for another host is not written. -/
theorem connectMessage_of_not_fits (h : ¬ HostFits host) (port : UInt16) :
    ∃ text, connectMessage host port = .error text := by
  obtain ⟨hliteral, hlong⟩ := not_or.1 h
  unfold connectMessage hostBytes?
  cases hparse : Net.IpAddress.parse? host.toList with
  | some ip => exact absurd (by rw [hparse]; rfl) hliteral
  | none =>
      rw [counted?_of_lt (by omega)]
      exact ⟨_, rfl⟩

/-! ## Replies -/

/-- The reply to a request that was granted: four bytes, the address at which the proxy is bound, as
the fourth byte says, and a port. -/
inductive IsReply : Bytes → Prop where
  | v4 (answered reserved : UInt8) (address port : Bytes) :
      address.length = 4 → port.length = 2 →
      IsReply ([answered, 0, reserved, 1] ++ (address ++ port))
  | v6 (answered reserved : UInt8) (address port : Bytes) :
      address.length = 16 → port.length = 2 →
      IsReply ([answered, 0, reserved, 4] ++ (address ++ port))
  | name (answered reserved count : UInt8) (address port : Bytes) :
      address.length = count.toNat → port.length = 2 →
      IsReply ([answered, 0, reserved, 3] ++ ([count] ++ (address ++ port)))

/-- The length of an address that has a name stands in front of it. -/
theorem yields_addressLength_name (count : UInt8) (stream : Bytes) :
    Yields (addressLength 3) ([count] ++ stream) (.ok count.toNat) stream [] :=
  (yields_readExact rfl stream).bind (yields_pure count.toNat stream)

/-- The bound address and the port are read to the end. -/
theorem yields_bound {length : Nat} {bound : Bytes} (h : bound.length = length + 2) (rest : Bytes) :
    Yields (do let _ ← Handshake.readExact (length + 2); Pure.pure ()) (bound ++ rest) (.ok ()) rest
      [] :=
  (yields_readExact h rest).bind (yields_pure () rest)

/-- A granted reply is consumed, and nothing behind it. -/
theorem yields_readReply_of_isReply (h : IsReply reply) (rest : Bytes) :
    Yields readReply (reply ++ rest) (.ok ()) rest [] := by
  cases h with
  | v4 answered reserved address port haddress hport =>
      have hbound : (address ++ port).length = 4 + 2 := by
        rw [List.length_append, haddress, hport]
      rw [List.append_assoc]
      exact (yields_readExact rfl _).bind ((yields_pure 4 _).bind (yields_bound hbound rest))
  | v6 answered reserved address port haddress hport =>
      have hbound : (address ++ port).length = 16 + 2 := by
        rw [List.length_append, haddress, hport]
      rw [List.append_assoc]
      exact (yields_readExact rfl _).bind ((yields_pure 16 _).bind (yields_bound hbound rest))
  | name answered reserved count address port haddress hport =>
      have hbound : (address ++ port).length = count.toNat + 2 := by
        rw [List.length_append, haddress, hport]
      rw [List.append_assoc, List.append_assoc]
      exact (yields_readExact rfl _).bind
        ((yields_addressLength_name count _).bind (yields_bound hbound rest))

/-- Enough bytes are an address and a port, and what stands behind them. -/
theorem exists_bound {length : Nat} (h : length + 2 ≤ stream.length) :
    ∃ address port rest : Bytes, address.length = length ∧ port.length = 2 ∧
      stream = address ++ port ++ rest := by
  refine ⟨stream.take length, (stream.drop length).take 2, stream.drop (length + 2), ?_, ?_, ?_⟩
  · rw [List.length_take]
    omega
  · rw [List.length_take, List.length_drop]
    omega
  · rw [← List.drop_drop, List.append_assoc, List.take_append_drop, List.take_append_drop]

/-- How long the bound address is depends on its type: the bytes `front` in front of it state it,
and with as many more bytes and a port there is a reply. Otherwise the handshake fails. -/
theorem addressLength_yields_or_fails (type : UInt8) (tail : Bytes) :
    (∃ (front bound : Bytes) (length : Nat), tail = front ++ bound ∧
      Yields (addressLength type) tail (.ok length) bound [] ∧
      ∀ answered reserved address port, address.length = length → port.length = 2 →
        IsReply ([answered, 0, reserved, type] ++ (front ++ (address ++ port)))) ∨
    Fails (addressLength type) tail [] := by
  by_cases hv4 : type = 1
  · subst hv4
    exact .inl ⟨[], tail, 4, rfl, yields_pure 4 tail, .v4⟩
  by_cases hv6 : type = 4
  · subst hv6
    exact .inl ⟨[], tail, 16, rfl, yields_pure 16 tail, .v6⟩
  by_cases hname : type = 3
  · subst hname
    cases tail with
    | nil => exact .inr (fails_readExact Nat.one_pos).bind
    | cons count bound =>
        exact .inl ⟨[count], bound, count.toNat, rfl, yields_addressLength_name count bound,
          fun answered reserved => .name answered reserved count⟩
  right
  unfold addressLength
  rw [if_neg hv4, if_neg hv6, if_neg hname]
  exact fails_fail _ tail

/-- A stream that does not begin with a granted reply makes the handshake fail. -/
theorem isReply_or_fails (stream : Bytes) :
    (∃ reply rest, IsReply reply ∧ stream = reply ++ rest) ∨ Fails readReply stream [] := by
  by_cases hshort : stream.length < 4
  · exact .inr (fails_readExact hshort).bind
  obtain ⟨answered, code, more, rfl⟩ := exists_two (Nat.le_of_lt (by omega : 2 < stream.length))
  obtain ⟨reserved, type, tail, rfl⟩ := exists_two (by simp at hshort; omega : 2 ≤ more.length)
  have hhead := yields_readExact (rfl : [answered, code, reserved, type].length = 4) tail
  by_cases hcode : code = 0
  · subst hcode
    rcases addressLength_yields_or_fails type tail with
      ⟨front, bound, length, rfl, hlength, hreply⟩ | hfails
    · by_cases henough : length + 2 ≤ bound.length
      · obtain ⟨address, port, rest, haddress, hport, rfl⟩ := exists_bound henough
        refine .inl ⟨_, rest, hreply answered reserved address port haddress hport, ?_⟩
        simp only [List.append_assoc]
        rfl
      · have hbound := fails_readExact (Nat.lt_of_not_le henough)
        exact .inr (hhead.bind_fails (hlength.bind_fails hbound.bind))
    · exact .inr (hhead.bind_fails hfails.bind)
  · refine .inr (hhead.bind_fails ?_)
    show Fails (if code ≠ 0 then _ else _) _ _
    rw [if_pos hcode]
    exact fails_fail _ tail

/-! ## Being let in -/

/-- The method that the proxy chooses in an answer of the right version. -/
def chosen? : Bytes → Option UInt8
  | answered :: method :: _ => if answered = version then some method else none
  | _ => none

/-- The proxy lets the client in at the beginning of its stream: it wants no login, or it accepts
the one that it was sent. -/
inductive Admits (login : Option Login) (rest : Bytes) : Bytes → Prop where
  | free : Admits login rest ([version, noLogin] ++ rest)
  | accepted (l : Login) (answered : UInt8) : login = some l → l.Fits →
      Admits login rest ([version, withLogin] ++ ([answered, 0] ++ rest))

/-- A login that no message can carry does not let the client in where it is wanted. -/
theorem not_admits_of_not_fits (hfits : ¬ l.Fits) (hchosen : chosen? stream = some withLogin)
    (rest : Bytes) : ¬ Admits (some l) rest stream := by
  intro hadmits
  cases hadmits with
  | free => cases hchosen
  | accepted other answered heq hother =>
      obtain rfl := Option.some.inj heq
      exact hfits hother

/-- What the client tells of its login: the message with it if one is configured, the proxy chooses
its method and it can be written, and otherwise nothing. -/
inductive Tells (login : Option Login) (stream : Bytes) : Bytes → Prop where
  | asked (l : Login) : login = some l → l.Fits → chosen? stream = some withLogin →
      Tells login stream (loginBytes l)
  | silent : (∀ l, login = some l → l.Fits → chosen? stream ≠ some withLogin) →
      Tells login stream []

/-- Nothing is told if the method with a login was not chosen. -/
theorem tells_nothing (h : chosen? stream ≠ some withLogin) : Tells login stream [] :=
  .silent fun _ _ _ => h

/-- A login that the proxy accepts is told. -/
theorem yields_authenticate (h : l.Fits) (answered : UInt8) (rest : Bytes) :
    Yields (authenticate l) ([answered, 0] ++ rest) (.ok ()) rest (loginBytes l) := by
  have hread : Yields (authenticate l) ([answered, 0] ++ rest) (.ok ()) rest
      (loginBytes l ++ ([] ++ [])) := by
    unfold authenticate
    rw [loginMessage_of_fits h]
    exact (yields_send _ _).bind ((yields_readExact rfl rest).bind (yields_pure () rest))
  rwa [List.append_nil, List.append_nil] at hread

/-- A login that the proxy does not accept is told, too. -/
theorem fails_authenticate (h : l.Fits)
    (hrefused : ∀ answered rest, stream ≠ [answered, 0] ++ rest) :
    Fails (authenticate l) stream (loginBytes l) := by
  have hread : Fails (authenticate l) stream (loginBytes l ++ []) := by
    unfold authenticate
    rw [loginMessage_of_fits h]
    refine (yields_send _ _).bind_fails ?_
    by_cases hshort : stream.length < 2
    · exact (fails_readExact hshort).bind
    obtain ⟨answered, status, tail, rfl⟩ := exists_two (Nat.le_of_not_lt hshort)
    refine (yields_readExact (rfl : [answered, status].length = 2) tail).bind_fails ?_
    split
    · rename_i heq
      cases heq
      exact absurd rfl (hrefused answered tail)
    · exact fails_fail _ tail
  rwa [List.append_nil] at hread

/-- A login that does not fit is not told. -/
theorem fails_authenticate_of_not_fits (h : ¬ l.Fits) (stream : Bytes) :
    Fails (authenticate l) stream [] := by
  obtain ⟨text, htext⟩ := loginMessage_of_not_fits h
  unfold authenticate
  rw [htext]
  exact (fails_fail text stream).bind

/-- A method that the client did not offer is refused. -/
theorem fails_choose (hfree : method ≠ noLogin) (hlogin : login.isSome → method ≠ withLogin)
    (stream : Bytes) : Fails (choose login method) stream [] := by
  unfold choose
  rw [if_neg hfree]
  cases login with
  | none =>
      dsimp only
      split
      · exact fails_fail _ stream
      · exact fails_fail _ stream
  | some l =>
      dsimp only
      rw [if_neg (hlogin rfl)]
      split
      · exact fails_fail _ stream
      · exact fails_fail _ stream

/-- The request for a connection, and the reply to it. -/
def ask (host : String) (port : UInt16) : Handshake Unit := do
  sendMessage (connectMessage host port)
  readReply

/-- A request that can be written is sent. -/
theorem yields_ask (hmessage : connectMessage host port = .ok bytes)
    (hreply : Yields readReply stream outcome rest []) :
    Yields (ask host port) stream outcome rest bytes := by
  have hask : Yields (ask host port) stream outcome rest (bytes ++ []) := by
    unfold ask
    rw [hmessage]
    exact (yields_send bytes stream).bind hreply
  rwa [List.append_nil] at hask

/-- A request that cannot be written is not sent. -/
theorem fails_ask_of_not_fits (h : ¬ HostFits host) (port : UInt16) (stream : Bytes) :
    Fails (ask host port) stream [] := by
  obtain ⟨text, htext⟩ := connectMessage_of_not_fits h port
  unfold ask
  rw [htext]
  exact (fails_fail text stream).bind

/-- What a handshake makes of a stream that begins with a choice of the right version. -/
theorem yields_run_of_choice
    (h : Yields (do choose login method; ask host port) stream outcome rest said) :
    Yields (run host port login) ([version, method] ++ stream) outcome rest
      (greeting login ++ said) :=
  (yields_send _ _).bind ((yields_readExact rfl stream).bind h)

/-- It fails if it fails behind the choice. -/
theorem fails_run_of_choice
    (h : Fails (do choose login method; ask host port) stream said) :
    Fails (run host port login) ([version, method] ++ stream) (greeting login ++ said) := by
  obtain ⟨fault, rest, hfails⟩ := h
  exact ⟨fault, rest, yields_run_of_choice hfails⟩

/-- A client that is let in asks for its connection. -/
theorem yields_run_of_admits (hadmits : Admits login rest stream)
    (hask : Yields (ask host port) rest outcome rest' bytes) :
    ∃ told, Tells login stream told ∧
      Yields (run host port login) stream outcome rest' (greeting login ++ (told ++ bytes)) := by
  cases hadmits with
  | free =>
      have hchosen : chosen? ([version, noLogin] ++ rest) ≠ some withLogin := by
        show some noLogin ≠ some withLogin
        decide
      have hchoose : Yields (choose login noLogin) rest (.ok ()) rest [] := yields_pure () rest
      exact ⟨[], tells_nothing hchosen, yields_run_of_choice (hchoose.bind hask)⟩
  | accepted l answered hlogin hfits =>
      subst hlogin
      have hchoose : Yields (choose (some l) withLogin) ([answered, 0] ++ rest) (.ok ()) rest
          (loginBytes l) := yields_authenticate hfits answered rest
      exact ⟨loginBytes l, .asked l rfl hfits rfl, yields_run_of_choice (hchoose.bind hask)⟩

/-- A choice that does not let the client in makes the handshake fail. -/
theorem fails_choose_of_not_admits
    (h : ∀ rest, ¬ Admits login rest ([version, method] ++ stream)) :
    ∃ told, Tells login ([version, method] ++ stream) told ∧
      Fails (choose login method) stream told := by
  have hfree : method ≠ noLogin := by
    rintro rfl
    exact h stream .free
  by_cases hmethod : method = withLogin
  · subst hmethod
    cases login with
    | none =>
        have hlogin : (none : Option Login).isSome → withLogin ≠ withLogin := fun hsome =>
          absurd hsome Bool.false_ne_true
        exact ⟨[], .silent nofun, fails_choose hfree hlogin stream⟩
    | some l =>
        by_cases hfits : l.Fits
        · have hrefused : ∀ answered rest, stream ≠ [answered, 0] ++ rest := by
            rintro answered rest rfl
            exact h rest (.accepted l answered rfl hfits)
          exact ⟨loginBytes l, .asked l rfl hfits rfl, fails_authenticate hfits hrefused⟩
        · refine ⟨[], .silent ?_, fails_authenticate_of_not_fits hfits stream⟩
          intro other heq hother
          obtain rfl := Option.some.inj heq
          exact absurd hother hfits
  · have hchosen : chosen? ([version, method] ++ stream) ≠ some withLogin := fun heq =>
      hmethod (Option.some.inj heq)
    exact ⟨[], tells_nothing hchosen, fails_choose hfree (fun _ => hmethod) stream⟩

/-- A client that is not let in fails and asks for nothing. -/
theorem fails_run_of_not_admits (h : ∀ rest, ¬ Admits login rest stream) (host : String)
    (port : UInt16) :
    ∃ told, Tells login stream told ∧
      Fails (run host port login) stream (greeting login ++ told) := by
  by_cases hshort : stream.length < 2
  · have hchosen : chosen? stream ≠ some withLogin := by
      match stream, hshort with
      | [], _ | [_], _ => nofun
    refine ⟨[], tells_nothing hchosen, (yields_send _ _).bind_fails ?_⟩
    exact (fails_readExact hshort).bind
  obtain ⟨answered, method, tail, rfl⟩ := exists_two (Nat.le_of_not_lt hshort)
  by_cases hversion : answered = version
  · subst hversion
    obtain ⟨told, htold, hfails⟩ := fails_choose_of_not_admits h
    exact ⟨told, htold, fails_run_of_choice hfails.bind⟩
  · have hchosen : chosen? ([answered, method] ++ tail) ≠ some withLogin := by
      show (if answered = version then some method else none) ≠ _
      rw [if_neg hversion]
      nofun
    have hhead := yields_readExact (rfl : [answered, method].length = 2) tail
    refine ⟨[], tells_nothing hchosen, (yields_send _ _).bind_fails (hhead.bind_fails ?_)⟩
    show Fails (if answered ≠ version then _ else _) _ _
    rw [if_pos hversion]
    exact fails_fail _ tail

/-! ## Transcripts -/

/-- What a proxy sends that opens a tunnel: its choice of a method, its answer to the login if
that is the method with one, and its reply to the request. -/
inductive IsTranscript : Bytes → Prop where
  | free (reply : Bytes) : IsReply reply → IsTranscript ([version, noLogin] ++ reply)
  | accepted (answered : UInt8) (reply : Bytes) : IsReply reply →
      IsTranscript ([version, withLogin] ++ ([answered, 0] ++ reply))

/-- A client that can write its messages follows a transcript to its end and no further. -/
theorem yields_run_of_isTranscript (h : IsTranscript transcript) (hhost : HostFits host)
    (hlogin : chosen? transcript = some withLogin → ∃ l, login = some l ∧ l.Fits) (port : UInt16)
    (rest : Bytes) :
    ∃ said, Yields (run host port login) (transcript ++ rest) (.ok ()) rest said := by
  obtain ⟨bytes, hbytes⟩ := connectMessage_of_fits hhost port
  cases h with
  | free reply hreply =>
      have hask := yields_ask hbytes (yields_readReply_of_isReply hreply rest)
      obtain ⟨told, -, hrun⟩ := yields_run_of_admits (.free : Admits login _ _) hask
      exact ⟨_, hrun⟩
  | accepted answered reply hreply =>
      obtain ⟨l, rfl, hfits⟩ := hlogin rfl
      have hask := yields_ask hbytes (yields_readReply_of_isReply hreply rest)
      obtain ⟨told, -, hrun⟩ := yields_run_of_admits (.accepted l answered rfl hfits) hask
      exact ⟨_, hrun⟩

/-- No transcript is the beginning of another one: the shorter one would be followed to its end,
and so would the longer one. -/
theorem IsTranscript.eq_of_prefix {other : Bytes} (h : IsTranscript transcript)
    (h' : IsTranscript other) (hfront : transcript <+: other) : transcript = other := by
  obtain ⟨rest, rfl⟩ := hfront
  have hhost : HostFits "" := .inr (by decide)
  have hlogin : ∀ transcript, chosen? transcript = some withLogin →
      ∃ l, some (Login.mk "" "") = some l ∧ l.Fits :=
    fun _ _ => ⟨_, rfl, by decide, by decide⟩
  obtain ⟨said, hshort⟩ := yields_run_of_isTranscript h hhost (hlogin transcript) 0 rest
  obtain ⟨said', hlong⟩ := yields_run_of_isTranscript h' hhost (hlogin _) 0 []
  rw [List.append_nil] at hlong
  obtain ⟨-, hrest, -⟩ := hshort.unique hlong
  rw [hrest, List.append_nil]

/-- A handshake follows a transcript at the beginning of the stream, or it fails. -/
theorem isTranscript_or_fails (host : String) (port : UInt16) (login : Option Login)
    (stream : Bytes) :
    (∃ transcript rest said, IsTranscript transcript ∧
      (chosen? transcript = some withLogin → login.isSome) ∧ stream = transcript ++ rest ∧
      Yields (run host port login) stream (.ok ()) rest said) ∨
    ∃ said, Fails (run host port login) stream said := by
  by_cases hadmits : ∃ rest, Admits login rest stream
  · obtain ⟨asked, hadmits⟩ := hadmits
    by_cases hhost : HostFits host
    · obtain ⟨bytes, hbytes⟩ := connectMessage_of_fits hhost port
      rcases isReply_or_fails asked with ⟨reply, rest, hreply, rfl⟩ | ⟨fault, rest, hfails⟩
      · have hask := yields_ask hbytes (yields_readReply_of_isReply hreply rest)
        obtain ⟨told, -, hrun⟩ := yields_run_of_admits hadmits hask
        refine .inl ?_
        cases hadmits with
        | free => exact ⟨_, rest, _, .free reply hreply, nofun, rfl, hrun⟩
        | accepted l answered hlogin =>
            exact ⟨_, rest, _, .accepted answered reply hreply, fun _ => by rw [hlogin]; rfl, rfl,
              hrun⟩
      · obtain ⟨told, -, hrun⟩ := yields_run_of_admits hadmits (yields_ask hbytes hfails)
        exact .inr ⟨_, fault, rest, hrun⟩
    · obtain ⟨fault, rest, hfails⟩ := fails_ask_of_not_fits hhost port asked
      obtain ⟨told, -, hrun⟩ := yields_run_of_admits hadmits hfails
      exact .inr ⟨_, fault, rest, hrun⟩
  · obtain ⟨told, -, hfails⟩ := fails_run_of_not_admits (not_exists.1 hadmits) host port
    exact .inr ⟨_, hfails⟩

/-- A handshake that succeeds has consumed a transcript, with an answer to the login only if one is
configured, and not one byte more. Every transcript that it can follow lets it succeed, and every
stream that breaks off inside a transcript makes it fail. -/
theorem handshake_consumes_transcript (host : String) (port : UInt16) (login : Option Login)
    (d : Duplex) :
    ((run host port login d).1 = .ok () →
      ∃ transcript, IsTranscript transcript ∧
        (chosen? transcript = some withLogin → login.isSome) ∧
        d.unread = transcript ++ (run host port login d).2.unread) ∧
    (∀ transcript rest, IsTranscript transcript → d.unread = transcript ++ rest → HostFits host →
      (chosen? transcript = some withLogin → ∃ l, login = some l ∧ l.Fits) →
      (run host port login d).1 = .ok () ∧ (run host port login d).2.unread = rest) ∧
    ∀ transcript, IsTranscript transcript → d.unread <+: transcript → d.unread ≠ transcript →
      ∃ fault, (run host port login d).1 = .error fault := by
  refine ⟨?_, ?_, ?_⟩
  · intro hok
    rcases isTranscript_or_fails host port login d.unread with
      ⟨transcript, rest, said, htranscript, hlogin, hstream, hrun⟩ | ⟨said, hfails⟩
    · obtain ⟨-, hrest, -⟩ := hrun d rfl
      rw [hrest]
      exact ⟨transcript, htranscript, hlogin, hstream⟩
    · obtain ⟨fault, hfault⟩ := hfails.exists_error d rfl
      rw [hfault] at hok
      cases hok
  · intro transcript rest htranscript hstream hhost hlogin
    obtain ⟨said, hrun⟩ := yields_run_of_isTranscript htranscript hhost hlogin port rest
    obtain ⟨houtcome, hrest, -⟩ := hrun d hstream
    exact ⟨houtcome, hrest⟩
  · intro transcript htranscript hfront hne
    rcases isTranscript_or_fails host port login d.unread with
      ⟨shorter, rest, said, hshorter, -, hstream, -⟩ | ⟨said, hfails⟩
    · -- A transcript inside of another one is all of it, so that the stream would not break off.
      have hbegins : shorter <+: d.unread := ⟨rest, hstream.symm⟩
      obtain rfl := hshorter.eq_of_prefix htranscript (hbegins.trans hfront)
      exact absurd (hfront.eq_of_length_le hbegins.length_le) hne
    · exact hfails.exists_error d rfl

/-- A proxy that wants no login and is bound to a host with a name of two letters. -/
theorem handshake_consumes_transcript_with_name :
    let d : Duplex := ⟨[[5], [0, 5, 0, 0, 3], [2, 104], [105, 31, 144, 22, 3]], []⟩
    IsTranscript [5, 0, 5, 0, 0, 3, 2, 104, 105, 31, 144] ∧
      (run "localhost" 443 none d).1 = .ok () ∧
        (run "localhost" 443 none d).2.unread = [22, 3] := by
  intro d
  have htranscript : IsTranscript [5, 0, 5, 0, 0, 3, 2, 104, 105, 31, 144] :=
    .free _ (.name 5 0 2 [104, 105] [31, 144] rfl rfl)
  obtain ⟨-, hfollowed, -⟩ := handshake_consumes_transcript "localhost" 443 none d
  exact ⟨htranscript, hfollowed _ _ htranscript rfl (.inr (by decide)) nofun⟩

end Socks5

end MalwareScan.Proxy
