/-
This file models the first message of a session, which has no type byte: the startup packet.
`Backend.ReceiveStartupMessage` reads its length, refuses a size outside `[4, 10000]`, reads the
body, and decodes it by its request code as a StartupMessage, an SSLRequest, a CancelRequest or
a GSSENCRequest; `encodeAndWrite` then writes what the decoded message's `Encode` gives.

`StartupMessage.Decode` reads the parameters as zero-terminated keys and values into a Go map,
until exactly one byte, which must be zero, is left. A packet without a parameter, one that
ends inside a key or a value, or one whose last byte is not zero is refused. `Encode` ranges
over the map: a key given twice is written once, with its last value, and the parameters come
out in the order of the `range`, which Go leaves open (`MapOrder`).

The content here is what reading and writing back do to a packet: a packet that decodes,
followed by anything, is read as itself (`receiveStartupMessage_encode`); whatever is read is a
packet that decodes, followed by the rest (`encode_of_receiveStartupMessage`); short of a whole
packet the read blocks (`receiveStartupMessage_of_incomplete`); and what is written back is never
longer than what was read (`reencoded_length_le`).
-/

import SqlTap.Wire

namespace SqlTap.Postgres

/-! ### The packet as it travels -/

/-- The first message of a session, as it travels: its body, which opens with the request
code. -/
structure StartupPacket where
  body : Bytes
  deriving DecidableEq, Repr

/-- The bytes of a startup packet: the length of the body plus the four length bytes, and the
body. -/
def StartupPacket.encode (packet : StartupPacket) : Bytes :=
  putUint32 (packet.body.length + 4) ++ packet.body

/-- `binary.BigEndian.Uint32(buf) - 4`: the length less four, in `uint32` arithmetic, so a
length below four wraps around to a size far above the limit. -/
def startupSize (length : Nat) : Nat := (length + 2 ^ 32 - 4) % 2 ^ 32

theorem startupSize_add_four {length : Nat} (bound : length < 2 ^ 32)
    (inRange : ¬(startupSize length < 4 ∨ 10000 < startupSize length)) :
    startupSize length + 4 = length := by
  simp only [startupSize] at *
  omega

/-- The size read from the length bytes of a packet of at most ten thousand bytes is the length
of its body. -/
theorem startupSize_encode {packet : StartupPacket} (atMost : packet.body.length ≤ 10000) :
    startupSize ((packet.body.length + 4) % 2 ^ 32) = packet.body.length := by
  simp only [startupSize]
  omega

/-! ### Decoding -/

/-- `ProtocolVersionNumber`, `sslRequestNumber`, `cancelRequestCode` and `gssEncReqNumber`. -/
def protocolVersionNumber : Nat := 196608

def sslRequestNumber : Nat := 80877103

def cancelRequestCode : Nat := 80877102

def gssEncReqNumber : Nat := 80877104

/-- The first message of a session, decoded. -/
inductive StartupRequest where
  /-- A StartupMessage of protocol 3.0, with its parameters in the order they were read. -/
  | startupMessage (parameters : List (Bytes × Bytes))
  | sslRequest
  | cancelRequest (processID secretKey : Nat)
  | gssEncRequest
  deriving DecidableEq, Repr

/-- `bytes.IndexByte(src, 0)` and the slices around it: the bytes before the first zero byte,
and those after it; none without a zero byte. -/
def cString : Bytes → Option (Bytes × Bytes)
  | [] => none
  | byte :: rest =>
    if byte = 0 then some ([], rest) else (cString rest).map fun (text, after) => (byte :: text, after)

/-- The loop of `StartupMessage.Decode` from the end of the protocol version: a key and a value,
each ended by a zero byte; then either a single byte is left, which must be zero, or the loop
reads the next pair. `fuel` bounds the passes, each of which reads at least two bytes. -/
def decodeParameters : Nat → Bytes → Option (List (Bytes × Bytes))
  | 0, _ => none
  | fuel + 1, src =>
    (cString src).bind fun (key, afterKey) =>
      (cString afterKey).bind fun (value, afterValue) =>
        match afterValue with
        | [last] => if last = 0 then some [(key, value)] else none
        | more => (decodeParameters fuel more).map ((key, value) :: ·)

/-- The switch of `ReceiveStartupMessage` on the request code, and the `Decode` of each kind: a
StartupMessage reads its parameters, a CancelRequest must be exactly twelve bytes, and an
SSLRequest or a GSSENCRequest needs only its code. -/
def decodeStartup : Bytes → Option StartupRequest
  | b0 :: b1 :: b2 :: b3 :: rest =>
    if uint32 b0 b1 b2 b3 = protocolVersionNumber then
      (decodeParameters rest.length rest).map .startupMessage
    else if uint32 b0 b1 b2 b3 = sslRequestNumber then some .sslRequest
    else if uint32 b0 b1 b2 b3 = cancelRequestCode then
      match rest with
      | [p0, p1, p2, p3, k0, k1, k2, k3] =>
        some (.cancelRequest (uint32 p0 p1 p2 p3) (uint32 k0 k1 k2 k3))
      | _ => none
    else if uint32 b0 b1 b2 b3 = gssEncReqNumber then some .gssEncRequest
    else none
  | _ => none

/-- A StartupMessage without a parameter is refused, and so is one whose last byte is not
zero. -/
example : decodeStartup (putUint32 protocolVersionNumber ++ [0]) = none := by decide

example :
    decodeStartup (putUint32 protocolVersionNumber ++ ascii "user" ++ [0] ++ ascii "u" ++ [0, 1]) =
      none := by decide

/-- `Backend.ReceiveStartupMessage`: the four length bytes, a size outside `[4, 10000]`
refused, then the body, decoded. A message comes back as the packet it was read from and what it
decodes to. -/
def receiveStartupMessage : Bytes → Read (StartupPacket × StartupRequest)
  | b0 :: b1 :: b2 :: b3 :: rest =>
    if startupSize (uint32 b0 b1 b2 b3) < 4 ∨ 10000 < startupSize (uint32 b0 b1 b2 b3) then .fail
    else if rest.length < startupSize (uint32 b0 b1 b2 b3) then .wait
    else
      match decodeStartup (rest.take (startupSize (uint32 b0 b1 b2 b3))) with
      | some request =>
        .done (⟨rest.take (startupSize (uint32 b0 b1 b2 b3))⟩, request)
          (rest.drop (startupSize (uint32 b0 b1 b2 b3)))
      | none => .fail
  | _ => .wait

/-- A packet `ReceiveStartupMessage` accepts: a body of four to ten thousand bytes that
decodes. -/
def StartupPacket.Valid (packet : StartupPacket) : Prop :=
  4 ≤ packet.body.length ∧ packet.body.length ≤ 10000 ∧ (decodeStartup packet.body).isSome

instance (packet : StartupPacket) : Decidable packet.Valid :=
  inferInstanceAs (Decidable (_ ∧ _ ∧ _))

/-! ### Encoding -/

/-- The order in which one `range` over a Go map of parameters visits its entries: any order,
given as a function that permutes the entries it is handed. -/
structure MapOrder where
  arrange : List (Bytes × Bytes) → List (Bytes × Bytes)
  perm : ∀ entries, (arrange entries).Perm entries

/-- The entries as they were handed over. -/
def MapOrder.asRead : MapOrder := ⟨id, List.Perm.refl⟩

/-- The entries of the map `Decode` fills: each key once, with its last value, at the place of
that last occurrence. -/
def lastValues : List (Bytes × Bytes) → List (Bytes × Bytes)
  | [] => []
  | (key, value) :: rest =>
    if rest.any (·.1 == key) then lastValues rest else (key, value) :: lastValues rest

/-- What `StartupMessage.Encode`'s loop writes for the entries: each key and each value, ended
by a zero byte. -/
def encodeParameters (parameters : List (Bytes × Bytes)) : Bytes :=
  parameters.flatMap fun (key, value) => key ++ 0 :: value ++ [0]

/-- The body the `Encode` of a decoded message writes: the code, then for a StartupMessage the
map's entries in the order of the `range` and a closing zero byte, and for a CancelRequest the
process identifier and the secret key. -/
def StartupRequest.packet (order : MapOrder) : StartupRequest → StartupPacket
  | .startupMessage parameters =>
    ⟨putUint32 protocolVersionNumber ++ encodeParameters (order.arrange (lastValues parameters)) ++
      [0]⟩
  | .sslRequest => ⟨putUint32 sslRequestNumber⟩
  | .cancelRequest processID secretKey =>
    ⟨putUint32 cancelRequestCode ++ putUint32 processID ++ putUint32 secretKey⟩
  | .gssEncRequest => ⟨putUint32 gssEncReqNumber⟩

/-- A key given twice is written once, with its last value. -/
example :
    ((StartupRequest.startupMessage [(ascii "a", ascii "1"), (ascii "a", ascii "2")]).packet
      MapOrder.asRead).body = putUint32 protocolVersionNumber ++ ascii "a" ++ [0] ++ ascii "2" ++ [0, 0] := by
  decide

/-! ### Reading a packet back -/

theorem cString_eq_some {bytes text after : Bytes} (split : cString bytes = some (text, after)) :
    bytes = text ++ 0 :: after := by
  induction bytes generalizing text with
  | nil => cases split
  | cons byte rest inductionHypothesis =>
    simp only [cString] at split
    split at split
    · next zero =>
      obtain ⟨rfl, rfl⟩ := Prod.mk.inj (Option.some.inj split)
      rw [zero]
      rfl
    · obtain ⟨⟨text', after'⟩, found, equal⟩ := Option.map_eq_some'.mp split
      obtain ⟨rfl, rfl⟩ := Prod.mk.inj equal
      rw [inductionHypothesis found]
      rfl

/-- What `StartupMessage.Decode` reads is what its loop writes back for the parameters in the
order read, and a closing zero byte. -/
theorem decodeParameters_eq_some {fuel : Nat} {src : Bytes} {parameters : List (Bytes × Bytes)}
    (decoded : decodeParameters fuel src = some parameters) :
    src = encodeParameters parameters ++ [0] := by
  induction fuel generalizing src parameters with
  | zero => cases decoded
  | succ fuel inductionHypothesis =>
    simp only [decodeParameters, Option.bind_eq_some] at decoded
    obtain ⟨⟨key, afterKey⟩, keyRead, ⟨value, afterValue⟩, valueRead, rest⟩ := decoded
    dsimp only at valueRead rest
    rw [cString_eq_some keyRead, cString_eq_some valueRead]
    split at rest
    · split at rest
      · next zero =>
        cases rest
        simp [encodeParameters, zero]
      · cases rest
    · obtain ⟨parameters', found, rfl⟩ := Option.map_eq_some'.mp rest
      rw [inductionHypothesis found]
      simp [encodeParameters]

/-- The round trip: a packet of a valid size that decodes, followed by anything, is read back as
itself with what it decodes to. -/
theorem receiveStartupMessage_encode {packet : StartupPacket} {request : StartupRequest}
    (atLeast : 4 ≤ packet.body.length) (atMost : packet.body.length ≤ 10000)
    (decoded : decodeStartup packet.body = some request) (rest : Bytes) :
    receiveStartupMessage (packet.encode ++ rest) = .done (packet, request) rest := by
  simp only [StartupPacket.encode, putUint32, List.cons_append, List.nil_append]
  rw [receiveStartupMessage]
  simp only [uint32_putUint32, startupSize_encode atMost, List.length_append, List.take_left,
    List.drop_left]
  rw [if_neg (by omega), if_neg (by omega)]
  split <;> simp_all

/-- Reading the startup packet loses and invents nothing: what is read is a packet of a valid
size that decodes, and the bytes it was read from are that packet followed by the rest. -/
theorem encode_of_receiveStartupMessage {bytes rest : Bytes} {packet : StartupPacket}
    {request : StartupRequest}
    (read : receiveStartupMessage bytes = .done (packet, request) rest) :
    4 ≤ packet.body.length ∧ packet.body.length ≤ 10000 ∧
      decodeStartup packet.body = some request ∧ bytes = packet.encode ++ rest := by
  match bytes, read with
  | b0 :: b1 :: b2 :: b3 :: unread, read =>
    have bound := uint32_lt b0 b1 b2 b3
    simp only [receiveStartupMessage] at read
    split_ifs at read with inRange enough
    split at read
    · rename_i request' decoded
      simp only [Read.done.injEq, Prod.mk.injEq] at read
      obtain ⟨⟨rfl, rfl⟩, rfl⟩ := read
      have size := startupSize_add_four bound inRange
      generalize startupSize (uint32 b0 b1 b2 b3) = msgSize at inRange enough decoded size ⊢
      have takeLength : (unread.take msgSize).length = msgSize :=
        List.length_take_of_le (by omega)
      refine ⟨by simp only [takeLength]; omega, by simp only [takeLength]; omega, decoded, ?_⟩
      show _ = putUint32 ((unread.take msgSize).length + 4) ++ unread.take msgSize ++ _
      rw [takeLength, size, putUint32_uint32, List.append_assoc, List.take_append_drop]
      rfl
    · cases read

/-- Short of a whole packet of a valid size, the read blocks. -/
theorem receiveStartupMessage_of_incomplete {packet : StartupPacket} (atLeast : 4 ≤ packet.body.length)
    (atMost : packet.body.length ≤ 10000) {bytes : Bytes} (opening : bytes <+: packet.encode)
    (short : bytes.length < packet.encode.length) : receiveStartupMessage bytes = .wait := by
  obtain ⟨more, split⟩ := opening
  simp only [StartupPacket.encode, putUint32, List.cons_append, List.nil_append] at split short
  match bytes, split with
  | c0 :: c1 :: c2 :: c3 :: unread, split =>
    simp only [List.cons_append, List.cons.injEq] at split
    obtain ⟨rfl, rfl, rfl, rfl, body⟩ := split
    simp only [List.length_cons] at short
    rw [receiveStartupMessage]
    simp only [uint32_putUint32, startupSize_encode atMost]
    rw [if_neg (by omega), if_pos (by omega)]
  | [], _ | [_], _ | [_, _], _ | [_, _, _], _ => rfl

/-- Reading the front of a packet of a valid size that decodes, followed by anything: short of
the whole packet the read blocks, and more is still to come; otherwise it takes the packet. -/
theorem receiveStartupMessage_of_append {packet : StartupPacket} {request : StartupRequest}
    (atLeast : 4 ≤ packet.body.length) (atMost : packet.body.length ≤ 10000)
    (decoded : decodeStartup packet.body = some request) {bytes pending tail : Bytes}
    (split : bytes ++ pending = packet.encode ++ tail) :
    (receiveStartupMessage bytes = .wait ∧ pending ≠ []) ∨
      ∃ rest, receiveStartupMessage bytes = .done (packet, request) rest ∧ rest ++ pending = tail := by
  rcases List.append_eq_append_iff.mp split with ⟨more, encoded, rfl⟩ | ⟨rest, rfl, rfl⟩
  · cases more with
    | nil =>
      rw [List.append_nil] at encoded
      subst encoded
      exact .inr ⟨[], by simpa using receiveStartupMessage_encode atLeast atMost decoded [], rfl⟩
    | cons byte more =>
      refine .inl ⟨receiveStartupMessage_of_incomplete atLeast atMost ⟨_, encoded.symm⟩ ?_, by simp⟩
      rw [encoded, List.length_append, List.length_cons]
      omega
  · exact .inr ⟨rest, receiveStartupMessage_encode atLeast atMost decoded rest, rfl⟩

/-! ### What is written back -/

theorem lastValues_sublist (parameters : List (Bytes × Bytes)) :
    (lastValues parameters).Sublist parameters := by
  induction parameters with
  | nil => exact .slnil
  | cons entry rest inductionHypothesis =>
    simp only [lastValues]
    split
    · exact inductionHypothesis.cons entry
    · exact inductionHypothesis.cons₂ entry

theorem encodeParameters_length_le {parameters parameters' : List (Bytes × Bytes)}
    (sublist : parameters'.Sublist parameters) :
    (encodeParameters parameters').length ≤ (encodeParameters parameters).length := by
  induction sublist with
  | slnil => exact le_rfl
  | cons entry _ inductionHypothesis =>
    simp only [encodeParameters, List.flatMap_cons, List.length_append] at inductionHypothesis ⊢
    omega
  | cons₂ entry _ inductionHypothesis =>
    simp only [encodeParameters, List.flatMap_cons, List.length_append] at inductionHypothesis ⊢
    omega

/-- What `Encode` writes back for a packet read is no longer than the packet: a key given twice
is written once, and the order of the parameters does not change their length. -/
theorem reencoded_length_le (order : MapOrder) {packet : StartupPacket} {request : StartupRequest}
    (atLeast : 4 ≤ packet.body.length) (decoded : decodeStartup packet.body = some request) :
    (request.packet order).body.length ≤ packet.body.length := by
  obtain ⟨body⟩ := packet
  match body, decoded with
  | b0 :: b1 :: b2 :: b3 :: rest, decoded =>
    simp only [decodeStartup] at decoded
    split_ifs at decoded
    · obtain ⟨parameters, found, rfl⟩ := Option.map_eq_some'.mp decoded
      have arranged := ((order.perm (lastValues parameters)).flatMap_right
        fun (entry : Bytes × Bytes) => entry.1 ++ 0 :: entry.2 ++ [0]).length_eq
      have shorter := encodeParameters_length_le (lastValues_sublist parameters)
      simp only [encodeParameters] at arranged shorter
      simp only [StartupRequest.packet, encodeParameters, List.length_append, arranged,
        decodeParameters_eq_some found, List.length_cons, putUint32, List.length_nil]
      omega
    · cases decoded
      simp [StartupRequest.packet, putUint32]
    · split at decoded <;> cases decoded
      simp [StartupRequest.packet, putUint32]
    · cases decoded
      simp [StartupRequest.packet, putUint32]

end SqlTap.Postgres
