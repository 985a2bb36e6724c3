import MalwareScan.Proofs.Net.AddressBytes
import MalwareScan.Proofs.Proxy.Negotiation

/-!
# What a SOCKS5 proxy hears

`hear?` reads what a client has written as the protocol says: an offer of methods, the login if
its method was chosen, and a request. The main theorem, `proxy_hears_configuration`, says what is
heard for every stream of the proxy: the login only if the proxy asked for it, the request only if
it let the client in, and both exactly as they are configured. A user, a password or a name that
is too long is not sent, nor is anything else of its message.
-/

namespace MalwareScan.Proxy.Socks5

open Handshake (Yields)

variable {login : Option Login} {l : Login} {host : String} {port : UInt16}
  {stream told asked bytes : Bytes}

/-! ## Reading messages -/

/-- A text behind one byte with its length, and what stands behind it. -/
def readCounted? : Bytes → Option (Bytes × Bytes)
  | [] => none
  | count :: rest =>
    if count.toNat ≤ rest.length then some (rest.take count.toNat, rest.drop count.toNat) else none

/-- The methods that a client offers. -/
def readMethods? : Bytes → Option (Bytes × Bytes)
  | 5 :: rest => readCounted? rest
  | _ => none

/-- The user and the password in the message with them. -/
def readLogin? : Bytes → Option ((Bytes × Bytes) × Bytes)
  | 1 :: rest => do
    let (user, rest) ← readCounted? rest
    let (password, rest) ← readCounted? rest
    some ((user, password), rest)
  | _ => none

/-- Where a client wants to be connected: to an address, or to a host with a name. -/
inductive Destination where
  | address (ip : Net.IpAddress)
  | name (bytes : Bytes)
deriving DecidableEq

/-- A request for a connection. -/
structure Request where
  destination : Destination
  port : UInt16
deriving DecidableEq

/-- The destination in a request, behind its type. -/
def readDestination? : Bytes → Option (Destination × Bytes)
  | 1 :: a :: b :: c :: d :: rest => some (.address (.v4 (.ofBytes a b c d)), rest)
  | 3 :: rest => (readCounted? rest).map fun (name, rest) => (.name name, rest)
  | 4 :: rest =>
    if 16 ≤ rest.length then
      (Net.Ipv6.ofBytes? (rest.take 16)).map fun ip => (.address (.v6 ip), rest.drop 16)
    else none
  | _ => none

/-- The request for a connection. -/
def readRequest? : Bytes → Option (Request × Bytes)
  | 5 :: 1 :: 0 :: rest => do
    match ← readDestination? rest with
    | (destination, a :: b :: rest) => some (⟨destination, Bytes.toUInt16 a b⟩, rest)
    | _ => none
  | _ => none

/-- What a proxy hears of a client. -/
structure Heard where
  methods : Bytes
  login : Option (Bytes × Bytes)
  request : Option Request
deriving DecidableEq

/-- The login, which is heard only by a proxy that chose its method. -/
def hearLogin? (method : Option UInt8) (rest : Bytes) :
    Option (Option (Bytes × Bytes) × Bytes) :=
  if method = some withLogin ∧ rest ≠ [] then
    (readLogin? rest).map fun (login, rest) => (some login, rest)
  else some (none, rest)

/-- The request, behind which there is nothing. -/
def hearRequest? : Bytes → Option (Option Request)
  | [] => some none
  | rest =>
    match readRequest? rest with
    | some (request, []) => some (some request)
    | _ => none

/-- What a proxy that chose a method hears in all that a client has written. -/
def hear? (method : Option UInt8) (written : Bytes) : Option Heard := do
  let (methods, rest) ← readMethods? written
  let (login, rest) ← hearLogin? method rest
  let request ← hearRequest? rest
  some { methods, login, request }

/-! ## Messages are read back -/

/-- A text that fits is read back. -/
theorem readCounted?_counted (h : bytes.length ≤ 255) (rest : Bytes) :
    readCounted? (counted bytes ++ rest) = some (bytes, rest) := by
  have hcount : (UInt8.ofNat bytes.length).toNat = bytes.length :=
    UInt8.toNat_ofNat_of_lt' (Nat.lt_succ_of_le h)
  have henough : bytes.length ≤ (bytes ++ rest).length := by
    rw [List.length_append]
    omega
  rw [counted, List.cons_append, readCounted?, hcount, if_pos henough, List.take_left,
    List.drop_left]

/-- The methods that a client offers. -/
def offered (login : Option Login) : Bytes :=
  if login.isSome then [noLogin, withLogin] else [noLogin]

/-- The offer of methods is read back. -/
theorem readMethods?_greeting (login : Option Login) (rest : Bytes) :
    readMethods? (greeting login ++ rest) = some (offered login, rest) := by
  cases login with
  | none => exact readCounted?_counted (by decide : [noLogin].length ≤ 255) rest
  | some l => exact readCounted?_counted (by decide : [noLogin, withLogin].length ≤ 255) rest

/-- A login that fits is read back. -/
theorem readLogin?_loginBytes (h : l.Fits) (rest : Bytes) :
    readLogin? (loginBytes l ++ rest) =
      some ((Text.Utf8.encode l.user, Text.Utf8.encode l.password), rest) := by
  have huser := readCounted?_counted h.user (counted (Text.Utf8.encode l.password) ++ rest)
  have hpassword := readCounted?_counted h.password rest
  rw [loginBytes, List.cons_append, List.append_assoc]
  simp only [readLogin?, huser, hpassword, bind, Option.bind]

/-- Where a host is: at the address that it states, and otherwise where its name says. -/
def destinationOf (host : String) : Destination :=
  match Net.IpAddress.parse? host.toList with
  | some ip => .address ip
  | none => .name (Text.Utf8.encode host)

/-- An IPv6 address is read back from a request. -/
theorem readDestination?_v6 (ip : Net.Ipv6) (rest : Bytes) :
    readDestination? (4 :: (ip.bytes ++ rest)) = some (.address (.v6 ip), rest) := by
  have hlength : ip.bytes.length = 16 := ip.length_bytes
  have henough : 16 ≤ (ip.bytes ++ rest).length := by
    rw [List.length_append]
    omega
  rw [readDestination?, if_pos henough, ← hlength, List.take_left, List.drop_left,
    Net.Ipv6.ofBytes?_bytes]
  rfl

/-- A host is read back from a request. -/
theorem readDestination?_hostBytes (h : hostBytes? host = some bytes) (rest : Bytes) :
    readDestination? (bytes ++ rest) = some (destinationOf host, rest) := by
  unfold hostBytes? at h
  unfold destinationOf
  cases hparse : Net.IpAddress.parse? host.toList with
  | some ip =>
      rw [hparse] at h
      cases ip with
      | v4 ip =>
          obtain ⟨a, b, c, d, hbytes, hip⟩ := ip.exists_bytes
          obtain rfl := Option.some.inj h
          rw [hbytes, ← hip]
          rfl
      | v6 ip =>
          obtain rfl := Option.some.inj h
          exact readDestination?_v6 ip rest
  | none =>
      rw [hparse] at h
      obtain ⟨text, htext, rfl⟩ := Option.map_eq_some_iff.1 h
      by_cases hle : (Text.Utf8.encode host).length ≤ 255
      · rw [counted?_of_le hle] at htext
        obtain rfl := Option.some.inj htext
        rw [List.cons_append, readDestination?, readCounted?_counted hle]
        rfl
      · rw [counted?_of_lt (by omega)] at htext
        cases htext

/-- A request is read back. -/
theorem readRequest?_connectMessage (h : connectMessage host port = .ok bytes) :
    readRequest? bytes = some (⟨destinationOf host, port⟩, []) := by
  unfold connectMessage at h
  cases hhost : hostBytes? host with
  | none => rw [hhost] at h; cases h
  | some text =>
      rw [hhost] at h
      obtain rfl := Except.ok.inj h
      have hread := readDestination?_hostBytes hhost (Bytes.ofUInt16 port)
      show readRequest? (5 :: 1 :: 0 :: (text ++ Bytes.ofUInt16 port)) = _
      simp only [readRequest?, hread, bind, Option.bind]
      show some (Request.mk (destinationOf host) (Bytes.toUInt16 _ _), ([] : Bytes)) = _
      rw [Bytes.toUInt16_ofUInt16]

/-! ## What is sent -/

/-- What the client asks for: its connection if the proxy lets it in and a request can carry the
host, and otherwise nothing. -/
inductive Asks (host : String) (port : UInt16) (login : Option Login) (stream : Bytes) :
    Bytes → Prop where
  | admitted (rest bytes : Bytes) : Admits login rest stream → HostFits host →
      connectMessage host port = .ok bytes → Asks host port login stream bytes
  | silent : ¬ ((∃ rest, Admits login rest stream) ∧ HostFits host) →
      Asks host port login stream []

/-- A reply is read without an answer to it. -/
theorem exists_yields_readReply (stream : Bytes) :
    ∃ outcome rest, Yields readReply stream outcome rest [] := by
  rcases isReply_or_fails stream with ⟨reply, rest, hreply, rfl⟩ | ⟨fault, rest, hfails⟩
  · exact ⟨.ok (), rest, yields_readReply_of_isReply hreply rest⟩
  · exact ⟨.error fault, rest, hfails⟩

/-- A handshake offers its methods, tells its login, asks for its connection and sends nothing else.
It fails if a request cannot carry the host. -/
theorem yields_run (host : String) (port : UInt16) (login : Option Login) (stream : Bytes) :
    ∃ told asked outcome rest, Tells login stream told ∧ Asks host port login stream asked ∧
      Yields (run host port login) stream outcome rest (greeting login ++ (told ++ asked)) ∧
      (¬ HostFits host → ∃ fault, outcome = .error fault) := by
  by_cases hadmits : ∃ rest, Admits login rest stream
  · obtain ⟨rest, hrest⟩ := hadmits
    by_cases hhost : HostFits host
    · obtain ⟨bytes, hbytes⟩ := connectMessage_of_fits hhost port
      obtain ⟨outcome, rest', hreply⟩ := exists_yields_readReply rest
      obtain ⟨told, htold, hrun⟩ := yields_run_of_admits hrest (yields_ask hbytes hreply)
      exact ⟨told, bytes, outcome, rest', htold, .admitted rest bytes hrest hhost hbytes, hrun,
        fun hnot => absurd hhost hnot⟩
    · obtain ⟨fault, rest', hask⟩ := fails_ask_of_not_fits hhost port rest
      obtain ⟨told, htold, hrun⟩ := yields_run_of_admits hrest hask
      exact ⟨told, [], _, rest', htold, .silent fun h => hhost h.2, hrun, fun _ => ⟨fault, rfl⟩⟩
  · obtain ⟨told, htold, fault, rest, hrun⟩ :=
      fails_run_of_not_admits (not_exists.1 hadmits) host port
    rw [← List.append_nil told] at hrun
    exact ⟨told, [], _, rest, htold, .silent fun h => hadmits h.1, hrun, fun _ => ⟨fault, rfl⟩⟩

/-- The login is heard if it was told. -/
theorem hearLogin?_told (htold : Tells login stream told)
    (hasked : Asks host port login stream asked) :
    ∃ heard, hearLogin? (chosen? stream) (told ++ asked) = some (heard, asked) ∧
      ∀ user password, heard = some (user, password) ↔
        ∃ l, login = some l ∧ l.Fits ∧ chosen? stream = some withLogin ∧
          user = Text.Utf8.encode l.user ∧ password = Text.Utf8.encode l.password := by
  cases htold with
  | asked l hlogin hfits hchosen =>
      refine ⟨some (Text.Utf8.encode l.user, Text.Utf8.encode l.password), ?_, ?_⟩
      · rw [hearLogin?, if_pos ⟨hchosen, List.cons_ne_nil _ _⟩, readLogin?_loginBytes hfits]
        rfl
      · intro user password
        constructor
        · intro heq
          cases heq
          exact ⟨l, hlogin, hfits, hchosen, rfl, rfl⟩
        · rintro ⟨other, hother, -, -, rfl, rfl⟩
          rw [hlogin] at hother
          cases hother
          rfl
  | silent hsilent =>
      have hnothing : ¬ (chosen? stream = some withLogin ∧ [] ++ asked ≠ []) := by
        rintro ⟨hchosen, hne⟩
        cases hasked with
        | silent => exact hne rfl
        | admitted rest bytes hadmits =>
            cases hadmits with
            | free => cases hchosen
            | accepted l answered hlogin hfits => exact hsilent l hlogin hfits hchosen
      refine ⟨none, ?_, ?_⟩
      · rw [hearLogin?, if_neg hnothing]
        rfl
      · intro user password
        constructor
        · nofun
        · rintro ⟨l, hlogin, hfits, hchosen, -, -⟩
          exact absurd hchosen (hsilent l hlogin hfits)

/-- The request is heard if it was asked. -/
theorem hearRequest?_asked (hasked : Asks host port login stream asked) :
    ∃ heard, hearRequest? asked = some heard ∧
      ∀ request, heard = some request ↔
        (∃ rest, Admits login rest stream) ∧ HostFits host ∧
          request = ⟨destinationOf host, port⟩ := by
  cases hasked with
  | admitted rest bytes hadmits hhost hbytes =>
      have hread := readRequest?_connectMessage hbytes
      refine ⟨some ⟨destinationOf host, port⟩, ?_, ?_⟩
      · cases asked with
        | nil => cases hread
        | cons b asked => simp only [hearRequest?, hread]
      · intro request
        constructor
        · intro heq
          exact ⟨⟨rest, hadmits⟩, hhost, (Option.some.inj heq).symm⟩
        · rintro ⟨-, -, rfl⟩
          rfl
  | silent hsilent =>
      refine ⟨none, rfl, ?_⟩
      intro request
      constructor
      · nofun
      · rintro ⟨hadmits, hhost, -⟩
        exact absurd ⟨hadmits, hhost⟩ hsilent

/-- A proxy that reads all that was sent as the protocol says hears the offer of methods; the
login as it is configured, exactly if it chose its method and the message can carry it; and the
request for the configured host and port, exactly if it let the client in and the request can
carry the host. Nothing else is sent. A handshake whose host no request can carry fails, and so
does one whose login no message can carry if the proxy wants it. -/
theorem proxy_hears_configuration (host : String) (port : UInt16) (login : Option Login)
    (d : Duplex) :
    ∃ written heard, (run host port login d).2.sent = d.sent ++ written ∧
      hear? (chosen? d.unread) written = some heard ∧
      heard.methods = offered login ∧
      (∀ user password, heard.login = some (user, password) ↔
        ∃ l, login = some l ∧ l.Fits ∧ chosen? d.unread = some withLogin ∧
          user = Text.Utf8.encode l.user ∧ password = Text.Utf8.encode l.password) ∧
      (∀ request, heard.request = some request ↔
        (∃ rest, Admits login rest d.unread) ∧ HostFits host ∧
          request = ⟨destinationOf host, port⟩) ∧
      (¬ HostFits host → ∃ fault, (run host port login d).1 = .error fault) ∧
      ∀ l, login = some l → ¬ l.Fits → chosen? d.unread = some withLogin →
        ∃ fault, (run host port login d).1 = .error fault := by
  obtain ⟨told, asked, outcome, rest, htold, hasked, hrun, hhost⟩ :=
    yields_run host port login d.unread
  obtain ⟨heardLogin, hlogin, hlogin_iff⟩ := hearLogin?_told htold hasked
  obtain ⟨heardRequest, hrequest, hrequest_iff⟩ := hearRequest?_asked hasked
  obtain ⟨houtcome, -, hsent⟩ := hrun d rfl
  refine ⟨_, ⟨offered login, heardLogin, heardRequest⟩, hsent, ?_, rfl, hlogin_iff, hrequest_iff,
    by rwa [houtcome], ?_⟩
  · simp only [hear?, readMethods?_greeting, hlogin, hrequest, bind, Option.bind]
  · rintro l rfl hfits hchosen
    obtain ⟨told, -, hfails⟩ :=
      fails_run_of_not_admits (not_admits_of_not_fits hfits hchosen) host port
    exact hfails.exists_error d rfl

/-- The login of a proxy that chooses it stands behind the offer of methods, and the request behind
it. -/
theorem proxy_hears_configuration_of_login :
    ∃ heard, hear? (some withLogin)
        (run "127.0.0.1" 443 (some ⟨"al", "pw"⟩) ⟨[[5], [2, 1], [0, 5, 0]], []⟩).2.sent =
          some heard ∧
      heard.login = some ([97, 108], [112, 119]) ∧
      heard.request = some ⟨.address (.v4 ⟨0x7f000001⟩), 443⟩ := by
  obtain ⟨written, heard, hsent, hheard, -, hlogin, hrequest, -, -⟩ :=
    proxy_hears_configuration "127.0.0.1" 443 (some ⟨"al", "pw"⟩) ⟨[[5], [2, 1], [0, 5, 0]], []⟩
  have hfits : (Login.mk "al" "pw").Fits := ⟨by decide, by decide⟩
  refine ⟨heard, ?_, ?_, ?_⟩
  · rw [hsent]
    exact hheard
  · exact (hlogin _ _).2 ⟨_, rfl, hfits, rfl, by decide, by decide⟩
  · refine (hrequest _).2 ⟨⟨[5, 0], .accepted _ 1 rfl hfits⟩, .inl (by decide), by decide⟩

/-- A user that no message can carry does not matter to a proxy that wants no login. -/
theorem long_user_is_no_fault_without_login :
    ¬ ∀ (host : String) (port : UInt16) (l : Login) (d : Duplex),
      255 < (Text.Utf8.encode l.user).length →
        ∃ fault, (run host port (some l) d).1 = .error fault := by
  intro h
  have hreply : IsReply [5, 0, 0, 1, 127, 0, 0, 1, 4, 56] := .v4 5 0 [127, 0, 0, 1] [4, 56] rfl rfl
  have hlong : 255 < (Text.Utf8.encode (String.ofList (List.replicate 256 'u'))).length := by
    decide +kernel
  obtain ⟨fault, hfault⟩ :=
    h "scanner.example.com" 443 ⟨String.ofList (List.replicate 256 'u'), "p"⟩
    ⟨[[5, 0, 5, 0, 0, 1, 127, 0, 0, 1, 4, 56]], []⟩ hlong
  obtain ⟨said, hrun⟩ := yields_run_of_isTranscript (.free _ hreply)
    (.inr (by decide) : HostFits "scanner.example.com")
    (nofun : _ → ∃ l, some (Login.mk (String.ofList (List.replicate 256 'u')) "p") = some l ∧
      l.Fits)
    443 []
  rw [(hrun _ rfl).1] at hfault
  cases hfault

end MalwareScan.Proxy.Socks5
