/-
This file models the bytes the proxy moves. A Go `string` and a non-nil Go `[]byte` are both
byte sequences. pgproto3 frames every message of a session after the first as a one-byte type
tag, a four-byte big-endian length that counts itself but not the tag, and a body.

The proxy does not copy these bytes: it reads each message with pgproto3's `Receive`, which
decodes it, and writes what the message's `Encode` gives back. pgproto3 is not part of this
repository, so a reader is a `Codec`: the type bytes it knows, whether it refuses an unknown one
before or after reading the body, and what decoding and encoding again make of a frame. `receive`
is what `Receive` does to the unread bytes of a socket with such a codec: block until the message
is complete, fail on a length or a type byte it refuses or a body it cannot decode, or take
exactly one message off the front. A reader given an encoded frame it accepts followed by
anything returns that frame and leaves the rest untouched; whatever it accepts is an encoded
frame followed by the rest; and short of a whole frame it waits.
-/

import Mathlib.Algebra.Group.Nat.Basic
import Mathlib.Data.List.Basic

namespace SqlTap.Postgres

/-! ### Bytes and big-endian lengths -/

/-- A Go `string`, or a non-nil Go `[]byte`: its bytes in order. -/
abbrev Bytes := List UInt8

/-- The bytes of an ASCII Go string literal. -/
def ascii (text : String) : Bytes := text.data.map Char.toUInt8

/-- `binary.BigEndian.PutUint32`: the four bytes of `value` modulo `2 ^ 32`, most significant
first. -/
def putUint32 (value : Nat) : Bytes :=
  [(value / 2 ^ 24).toUInt8, (value / 2 ^ 16).toUInt8, (value / 2 ^ 8).toUInt8, value.toUInt8]

/-- `binary.BigEndian.Uint32` of four bytes. -/
def uint32 (b0 b1 b2 b3 : UInt8) : Nat :=
  b0.toNat * 2 ^ 24 + b1.toNat * 2 ^ 16 + b2.toNat * 2 ^ 8 + b3.toNat

theorem toNat_toUInt8 (value : Nat) : value.toUInt8.toNat = value % 256 := rfl

theorem uint32_lt (b0 b1 b2 b3 : UInt8) : uint32 b0 b1 b2 b3 < 2 ^ 32 := by
  have := b0.toNat_lt_size; have := b1.toNat_lt_size
  have := b2.toNat_lt_size; have := b3.toNat_lt_size
  simp only [uint32, UInt8.size, Nat.reducePow] at *
  omega

/-- The four bytes `putUint32` writes read back as the value modulo `2 ^ 32`. -/
theorem uint32_putUint32 (value : Nat) :
    uint32 (value / 2 ^ 24).toUInt8 (value / 2 ^ 16).toUInt8 (value / 2 ^ 8).toUInt8
      value.toUInt8 = value % 2 ^ 32 := by
  simp only [uint32, toNat_toUInt8, Nat.reducePow]
  omega

theorem putUint32_uint32 (b0 b1 b2 b3 : UInt8) :
    putUint32 (uint32 b0 b1 b2 b3) = [b0, b1, b2, b3] := by
  have := b0.toNat_lt_size; have := b1.toNat_lt_size
  have := b2.toNat_lt_size; have := b3.toNat_lt_size
  simp only [UInt8.size] at *
  simp only [putUint32, uint32, List.cons.injEq, and_true, Nat.reducePow]
  refine ⟨?_, ?_, ?_, ?_⟩ <;> apply UInt8.toNat.inj <;> rw [toNat_toUInt8] <;> omega

/-! ### Tagged messages -/

/-- A message after the startup packet, as it travels: its type byte and its body. -/
structure Frame where
  tag : UInt8
  body : Bytes
  deriving DecidableEq, Repr

/-- The bytes of a frame: the tag, the length of the body plus the four length bytes, and the
body. This is what pgproto3's `Encode` writes for every message type. -/
def Frame.encode (frame : Frame) : Bytes :=
  frame.tag :: (putUint32 (frame.body.length + 4) ++ frame.body)

/-- A frame whose length fits its four length bytes. -/
def Frame.WellFramed (frame : Frame) : Prop := frame.body.length + 4 < 2 ^ 32

instance (frame : Frame) : Decidable frame.WellFramed :=
  inferInstanceAs (Decidable (_ < _))

/-- What one blocking read does to the unread bytes of a socket. -/
inductive Read (Message : Type) where
  /-- The socket holds less than the whole message: the read blocks. -/
  | wait
  /-- The bytes announce a message the reader refuses: the read returns an error. -/
  | fail
  /-- One message came off the front, and `rest` is still unread. -/
  | done (message : Message) (rest : Bytes)
  deriving DecidableEq, Repr

/-! ### pgproto3's readers -/

/-- What the relay uses of one of pgproto3's readers: `Backend`, which reads the client, or
`Frontend`, which reads the upstream. -/
structure Codec where
  /-- The type bytes for which `Receive` has a message type. -/
  knows : UInt8 → Bool
  /-- Whether `Receive` refuses an unknown type byte as soon as it has the header (`Backend`),
  or only once it has the body (`Frontend`). -/
  tagFirst : Bool
  /-- `Decode` of a frame's body as the message its type byte names, then that message's
  `Encode`: the bytes `encodeAndWrite` writes for the frame, or none when `Decode` fails. -/
  reencode : Frame → Option Bytes

/-- `Receive` of pgproto3's `Frontend` and `Backend`: the five header bytes, a length below four
refused as a negative body length, an unknown type byte refused, then the body, decoded. A
message comes back as the frame it was read from and the bytes its `Encode` writes. -/
def receive (codec : Codec) : Bytes → Read (Frame × Bytes)
  | tag :: b0 :: b1 :: b2 :: b3 :: rest =>
    if uint32 b0 b1 b2 b3 < 4 then .fail
    else if codec.tagFirst && !codec.knows tag then .fail
    else if rest.length < uint32 b0 b1 b2 b3 - 4 then .wait
    else if codec.knows tag then
      match codec.reencode ⟨tag, rest.take (uint32 b0 b1 b2 b3 - 4)⟩ with
      | some written =>
        .done (⟨tag, rest.take (uint32 b0 b1 b2 b3 - 4)⟩, written) (rest.drop (uint32 b0 b1 b2 b3 - 4))
      | none => .fail
    else .fail
  | _ => .wait

/-- A message a codec reads, and what it writes for it: the bytes read are a well-framed frame of
a type the codec knows, and those written what decoding and encoding the frame again give. -/
def Codec.Reencodes (codec : Codec) (entry : Bytes × Bytes) : Prop :=
  ∃ frame : Frame, entry.1 = frame.encode ∧ frame.WellFramed ∧ codec.knows frame.tag = true ∧
    codec.reencode frame = some entry.2

/-- A frame a codec reads as one message: well framed, of a type it knows, with a body it
decodes. -/
def Codec.Accepts (codec : Codec) (frame : Frame) : Prop :=
  frame.WellFramed ∧ codec.knows frame.tag = true ∧ (codec.reencode frame).isSome = true

instance (codec : Codec) (frame : Frame) : Decidable (codec.Accepts frame) :=
  inferInstanceAs (Decidable (_ ∧ _ ∧ _))

/-- The header of an encoded frame reads back as its tag and its length. -/
theorem Frame.encode_eq (frame : Frame) (wellFramed : frame.WellFramed) :
    ∃ b0 b1 b2 b3, frame.encode = frame.tag :: b0 :: b1 :: b2 :: b3 :: frame.body ∧
      uint32 b0 b1 b2 b3 = frame.body.length + 4 := by
  have length : (frame.body.length + 4) % 2 ^ 32 = frame.body.length + 4 :=
    Nat.mod_eq_of_lt wellFramed
  exact ⟨_, _, _, _, rfl, (uint32_putUint32 _).trans length⟩

/-- The round trip: a well-framed frame of a known type that decodes, followed by anything, is
read back as itself with what its `Encode` writes. -/
theorem receive_encode {codec : Codec} {frame : Frame} {written : Bytes}
    (wellFramed : frame.WellFramed) (known : codec.knows frame.tag = true)
    (decoded : codec.reencode frame = some written) (rest : Bytes) :
    receive codec (frame.encode ++ rest) = .done (frame, written) rest := by
  obtain ⟨b0, b1, b2, b3, encoded, header⟩ := frame.encode_eq wellFramed
  rw [encoded]
  simp only [List.cons_append, receive, header, known, decoded, Bool.not_true, Bool.and_false,
    Nat.add_sub_cancel, List.length_append, List.take_left, List.drop_left, if_true]
  rw [if_neg (by omega), if_neg Bool.false_ne_true, if_neg (by omega)]

/-- Reading loses and invents nothing: what `receive` accepts is a well-framed frame of a known
type that decodes, and the bytes it was read from are that frame followed by the rest. -/
theorem encode_of_receive {codec : Codec} {bytes rest : Bytes} {frame : Frame} {written : Bytes}
    (read : receive codec bytes = .done (frame, written) rest) :
    codec.Reencodes (frame.encode, written) ∧ bytes = frame.encode ++ rest := by
  match bytes, read with
  | tag :: b0 :: b1 :: b2 :: b3 :: unread, read =>
    simp only [receive] at read
    split_ifs at read with atLeastFour refused enough known
    split at read
    · rename_i written' decoded
      simp only [Read.done.injEq, Prod.mk.injEq] at read
      obtain ⟨⟨rfl, rfl⟩, rfl⟩ := read
      have bodyLength :
          (unread.take (uint32 b0 b1 b2 b3 - 4)).length + 4 = uint32 b0 b1 b2 b3 := by
        simp only [List.length_take]
        omega
      refine ⟨⟨_, rfl, ?_, known, decoded⟩, ?_⟩
      · simp only [Frame.WellFramed, bodyLength, uint32_lt]
      · simp only [Frame.encode, bodyLength, putUint32_uint32, List.cons_append, List.nil_append,
          List.append_assoc, List.take_append_drop]
    · cases read

/-- Short of a whole frame of a known type, a read blocks. -/
theorem receive_of_incomplete {codec : Codec} {frame : Frame} (wellFramed : frame.WellFramed)
    (known : codec.knows frame.tag = true) {bytes : Bytes} (opening : bytes <+: frame.encode)
    (short : bytes.length < frame.encode.length) : receive codec bytes = .wait := by
  obtain ⟨b0, b1, b2, b3, encoded, header⟩ := frame.encode_eq wellFramed
  rw [encoded] at opening short
  obtain ⟨more, split⟩ := opening
  match bytes, split with
  | tag :: c0 :: c1 :: c2 :: c3 :: unread, split =>
    simp only [List.cons_append, List.cons.injEq] at split
    obtain ⟨rfl, rfl, rfl, rfl, rfl, body⟩ := split
    simp only [List.length_cons] at short
    simp only [receive, header, known, Bool.not_true, Bool.and_false, Nat.add_sub_cancel]
    rw [if_neg (by omega), if_neg Bool.false_ne_true, if_pos (by omega)]
  | [], _ | [_], _ | [_, _], _ | [_, _, _], _ | [_, _, _, _], _ => rfl

/-- Reading the front of a frame the codec accepts followed by anything: short of the whole
frame the read blocks, and more is still to come; otherwise it takes the frame. -/
theorem receive_of_append {codec : Codec} {frame : Frame} (accepts : codec.Accepts frame)
    {bytes pending tail : Bytes} (split : bytes ++ pending = frame.encode ++ tail) :
    (receive codec bytes = .wait ∧ pending ≠ []) ∨
      ∃ written rest, codec.reencode frame = some written ∧
        receive codec bytes = .done (frame, written) rest ∧ rest ++ pending = tail := by
  obtain ⟨wellFramed, known, decodes⟩ := accepts
  obtain ⟨written, decoded⟩ := Option.isSome_iff_exists.mp decodes
  rcases List.append_eq_append_iff.mp split with ⟨more, encoded, rfl⟩ | ⟨rest, rfl, rfl⟩
  · cases more with
    | nil =>
      rw [List.append_nil] at encoded
      subst encoded
      exact .inr ⟨written, [], decoded, by simpa using receive_encode wellFramed known decoded [],
        rfl⟩
    | cons byte more =>
      refine .inl ⟨receive_of_incomplete wellFramed known ⟨_, encoded.symm⟩ ?_, by simp⟩
      rw [encoded, List.length_append, List.length_cons]
      omega
  · exact .inr ⟨written, rest, decoded, receive_encode wellFramed known decoded rest, rfl⟩

end SqlTap.Postgres
