import NetWatch.Icmp.Transport
import NetWatch.Proofs.Icmp.Fields

/-!
# Answers to echo requests

A request goes out, a host sends it back as a reply, the socket may put an IP header in front, and
the key has to be found again. `requests_find_their_keys` follows a request all the way, and says
what a packet must be for a key to be found in it.
-/

namespace NetWatch.Icmp

open Octets Probing

/-! ## The header in front -/

/-- An IPv4 header: version 4, and the length that its first octet gives in words of four octets, of
which there are at least five. -/
structure IsIpHeader (header : Octets) : Prop where
  long : 20 ≤ header.length
  first : ∃ b, header.head? = some b ∧ b.toNat / 16 = 4 ∧ header.length = b.toNat % 16 * 4

theorem stripIpHeader_append {header : Octets} (h : IsIpHeader header) (message : Octets) :
    stripIpHeader (header ++ message) = message := by
  obtain ⟨hlong, b, hb, hversion, hlength⟩ := h
  cases header with
  | nil => cases hb
  | cons first rest =>
    obtain rfl := Option.some.inj hb
    rw [List.cons_append, stripIpHeader, if_pos hversion, if_neg (by omega), ← hlength,
      ← List.cons_append, List.drop_left]

/-- A message has no header if it does not begin like one. -/
theorem stripIpHeader_of_head {message : Octets} {b : UInt8} (h : message[0]? = some b)
    (hb : b.toNat / 16 ≠ 4) : stripIpHeader message = message := by
  cases message with
  | nil => rfl
  | cons first rest =>
    obtain rfl := Option.some.inj h
    rw [stripIpHeader, if_neg hb]

/-- What a raw socket or a datagram socket puts in front of a message. -/
def IsFront (front : Octets) : Prop := front = [] ∨ IsIpHeader front

/-- A request or a reply is found behind a header, and is not taken for a header itself. -/
theorem Echo.Stands.stripIpHeader_append {p : Echo} {data front : Octets} (h : p.Stands data)
    (hkind : p.kind = echoRequest ∨ p.kind = echoReply) (hfront : IsFront front) :
    stripIpHeader (front ++ data) = data := by
  rcases hfront with rfl | hheader
  · refine stripIpHeader_of_head (Echo.stands_iff.1 h).2.1 ?_
    rcases hkind with hkind | hkind <;> rw [hkind] <;> decide
  · exact Icmp.stripIpHeader_append hheader data

/-! ## Keys -/

namespace Transport

variable {t : Transport} {p : Echo} {data : Octets}

theorem replyKey?_of_stands (h : p.Stands data)
    (hkind : p.kind = echoRequest ∨ p.kind = echoReply) : t.replyKey? data =
      if p.kind ≠ echoReply then none
      else if t.kind = .raw ∧ p.identifier ≠ t.identifier then none
      else some p.key := by
  simp only [replyKey?, Echo.decode?_eq_some_iff.2 ⟨h, hkind⟩]

theorem replyKey?_request (h : p.Stands data) (hkind : p.kind = echoRequest) :
    t.replyKey? data = none := by
  rw [replyKey?_of_stands h (.inl hkind), if_pos (by rw [hkind]; decide)]

theorem replyKey?_reply (h : p.Stands data) (hkind : p.kind = echoReply)
    (hidentifier : t.kind = .raw → p.identifier = t.identifier) :
    t.replyKey? data = some p.key := by
  rw [replyKey?_of_stands h (.inr hkind), if_neg (by simp [hkind]),
    if_neg fun hforeign => hforeign.2 (hidentifier hforeign.1)]

theorem replyKey?_foreign (h : p.Stands data) (hkind : p.kind = echoReply) (hraw : t.kind = .raw)
    (hidentifier : p.identifier ≠ t.identifier) : t.replyKey? data = none := by
  rw [replyKey?_of_stands h (.inr hkind), if_neg (by simp [hkind]), if_pos ⟨hraw, hidentifier⟩]

/-- A key is found in a signed reply only, and on a raw socket only in one of its own. -/
theorem replyKey?_eq_some_iff {key : Key} : t.replyKey? data = some key ↔
    ∃ p : Echo, p.Stands data ∧ p.kind = echoReply ∧ p.key = key ∧
      (t.kind = .raw → p.identifier = t.identifier) := by
  constructor
  · intro h
    cases hdecode : Echo.decode? data with
    | none => simp [replyKey?, hdecode] at h
    | some p =>
      simp only [replyKey?, hdecode, Option.ite_none_left_eq_some, Option.some.injEq,
        Decidable.not_not, not_and] at h
      exact ⟨p, (Echo.decode?_eq_some_iff.1 hdecode).1, h.1, h.2.2, h.2.1⟩
  · rintro ⟨p, h, hkind, rfl, hidentifier⟩
    exact replyKey?_reply h hkind hidentifier

end Transport

/-! ## From the request to its key -/

/-- A request sent back: it has the type of a reply, some checksum, and more octets may follow. -/
def answer (request : Octets) (sum : UInt16) (more : Octets) : Octets :=
  Octets.overwrite (Octets.overwrite request 0 [echoReply]) 2 (ofNat 2 sum.toNat) ++ more

def withIdentifier (identifier : UInt16) (packet : Octets) : Octets :=
  Octets.overwrite packet 4 (ofNat 2 identifier.toNat)

theorem stands_answer (p : Echo) (sum : UInt16) (more : Octets) :
    Echo.Stands { p with kind := echoReply } (answer p.encode sum more) :=
  (((Echo.stands_encode p).overwriteKind echoReply).overwriteChecksum sum).append more

theorem length_answer (p : Echo) (sum : UInt16) :
    (answer p.encode sum []).length = Echo.size := by
  have hkind : (Octets.overwrite p.encode 0 [echoReply]).length = Echo.size := rfl
  rw [answer, List.append_nil, length_overwrite (by simp [hkind, Echo.size]), hkind]

theorem answer_eq_append (request : Octets) (sum : UInt16) (more : Octets) :
    answer request sum more = answer request sum [] ++ more := by
  rw [answer, answer, List.append_nil]

theorem received?_answer {front : Octets} (hfront : IsFront front) (p : Echo) (sum : UInt16)
    (more : Octets) : ∃ more', received? (front ++ answer p.encode sum more) =
      some (answer p.encode sum more') := by
  have hshort : front.length ≤ 60 := by
    rcases hfront with rfl | ⟨-, b, -, -, hlength⟩
    · exact Nat.zero_le _
    · omega
  have hlength : (front ++ answer p.encode sum []).length ≤ receiveLimit := by
    rw [List.length_append, length_answer, Echo.size, receiveLimit]
    omega
  obtain ⟨more', htake⟩ : ∃ more', (front ++ answer p.encode sum more).take receiveLimit =
      front ++ answer p.encode sum more' := by
    refine ⟨more.take (receiveLimit - (front ++ answer p.encode sum []).length), ?_⟩
    rw [answer_eq_append, ← List.append_assoc, List.take_append, List.take_of_length_le hlength,
      answer_eq_append p.encode sum (more.take _), List.append_assoc]
  have hanswer := stands_answer p sum more'
  have hne : answer p.encode sum more' ≠ [] :=
    List.ne_nil_of_length_pos (Nat.lt_of_lt_of_le (by decide) hanswer.size_le)
  refine ⟨more', ?_⟩
  rw [received?, htake, hanswer.stripIpHeader_append (.inr rfl) hfront]
  obtain ⟨first, rest, heq⟩ := List.exists_cons_of_ne_nil hne
  rw [heq]

/-- The key of a request is found in its answer, behind any IP header on a raw socket and under any
identifier on a datagram socket, whatever checksum the answer has, whatever follows it and however
many requests the socket has sent since. On a raw socket an answer with another identifier has no
key, and a request has none anywhere. A key is found only in a signed reply that holds it. -/
theorem requests_find_their_keys (socket : Transport) (key : Key) (sentAt : UInt64)
    (sum later : UInt16) (more : Octets) :
    let q := (socket.request key sentAt).1.encode
    let r := answer q sum more
    let t : Transport := { socket with sequence := later }
    (t.kind = .raw → ∀ header, IsIpHeader header →
      t.replyKey? (stripIpHeader (header ++ r)) = some key ∧
      (∃ payload, received? (header ++ r) = some payload ∧ t.replyKey? payload = some key) ∧
      ∀ identifier, identifier ≠ t.identifier →
        t.replyKey? (stripIpHeader (header ++ withIdentifier identifier r)) = none) ∧
    (t.kind = .datagram →
      t.replyKey? (stripIpHeader r) = some key ∧
      (∃ payload, received? r = some payload ∧ t.replyKey? payload = some key) ∧
      ∀ identifier, t.replyKey? (stripIpHeader (withIdentifier identifier r)) = some key) ∧
    (∀ front, IsFront front → t.replyKey? (stripIpHeader (front ++ q)) = none) ∧
    ∀ payload found, t.replyKey? payload = some found →
      40 ≤ payload.length ∧ payload[0]? = some 0 ∧ payload[1]? = some 0 ∧
      payload.extract 24 32 = signature ∧ payload.extract 8 16 = ofNat 8 found.toNat ∧
      (t.kind = .raw → payload.extract 4 6 = ofNat 2 t.identifier.toNat) := by
  intro q r t
  have hq : (socket.request key sentAt).1.Stands q := Echo.stands_encode _
  have hr := stands_answer (socket.request key sentAt).1 sum more
  -- an answer has the identifier of its request until another one is put in its place
  have hkey : ∀ {more}, t.replyKey? (answer q sum more) = some key := fun {more} =>
    Transport.replyKey?_reply (stands_answer _ sum more) rfl fun _ => rfl
  have hother := hr.overwriteIdentifier
  refine ⟨fun hraw header hheader => ⟨?_, ?_, fun identifier hne => ?_⟩,
    fun hdatagram => ⟨?_, ?_, fun identifier => ?_⟩, fun front hfront => ?_,
    fun payload found hfound => ?_⟩
  · rw [stripIpHeader_append hheader]
    exact hkey
  · obtain ⟨more', hreceived⟩ := received?_answer (.inr hheader) _ sum more
    exact ⟨_, hreceived, hkey⟩
  · rw [stripIpHeader_append hheader]
    exact Transport.replyKey?_foreign (hother identifier) rfl hraw hne
  · have hstrip : stripIpHeader r = r := hr.stripIpHeader_append (.inr rfl) (.inl rfl)
    rw [hstrip]
    exact hkey
  · obtain ⟨more', hreceived⟩ := received?_answer (.inl rfl) _ sum more
    exact ⟨_, hreceived, hkey⟩
  · have hstrip : stripIpHeader (withIdentifier identifier r) = withIdentifier identifier r :=
      (hother identifier).stripIpHeader_append (.inr rfl) (.inl rfl)
    rw [hstrip]
    exact Transport.replyKey?_reply (hother identifier) rfl fun hraw => by
      rw [hdatagram] at hraw
      cases hraw
  · rw [hq.stripIpHeader_append (.inl rfl) hfront]
    exact Transport.replyKey?_request hq rfl
  · obtain ⟨p, hp, hkind, rfl, hidentifier⟩ := Transport.replyKey?_eq_some_iff.1 hfound
    obtain ⟨hsize, hfirst, hcode, -⟩ := Echo.stands_iff.1 hp
    refine ⟨hsize, by rw [hfirst, hkind]; rfl, hcode, hp.signed, hp.key, fun hraw => ?_⟩
    rw [hp.identifier, hidentifier hraw]

/-- Behind a header with options, with a false checksum and an octet too many. -/
theorem requests_find_their_keys_raw :
    let socket : Transport := { kind := .raw, identifier := 0x4242, sequence := 7 }
    let header : Octets := 0x46 :: List.replicate 23 0xFF
    let q := (socket.request 5 99).1.encode
    socket.kind = .raw ∧ IsIpHeader header ∧
      socket.replyKey? (stripIpHeader (header ++ answer q 0xBEEF [0x45])) = some 5 ∧
      (0x1111 : UInt16) ≠ socket.identifier ∧
      socket.replyKey? (stripIpHeader (header ++ withIdentifier 0x1111 (answer q 0xBEEF [0x45]))) =
        none := by
  intro socket header q
  have hheader : IsIpHeader header := ⟨by decide, 0x46, rfl, by decide, by decide⟩
  have hne : (0x1111 : UInt16) ≠ socket.identifier := by decide
  obtain ⟨hkey, -, hforeign⟩ :=
    (requests_find_their_keys socket 5 99 0xBEEF 7 [0x45]).1 rfl header hheader
  exact ⟨rfl, hheader, hkey, hne, hforeign 0x1111 hne⟩

end NetWatch.Icmp
