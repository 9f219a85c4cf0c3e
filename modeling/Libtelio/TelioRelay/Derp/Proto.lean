/- The DERP frame codec of `telio-relay` (`derp/proto.rs`).

   A frame is one type byte, the payload length as a big-endian `u32`, and the payload.
   `readFrame` reads one frame off a byte stream and returns what is left of the stream;
   `writeFrame` appends one frame to a byte sink. The main result is the round trip in both
   directions: reading back what was written, and writing back what was read.

   `startRead` is the loop that reads the server's stream frame by frame and forwards each
   received packet, split into its sender's key and the rest; a packet shorter than a key
   panics the loop. -/

import Libtelio.Lib.BigEndian
import Libtelio.TelioCrypto.Key

set_option autoImplicit false
set_option relaxedAutoImplicit false

namespace Libtelio.TelioRelay.Derp

open Libtelio.Lib.BigEndian Libtelio.TelioCrypto

/-- `FrameType`: the kind of a DERP frame. -/
inductive FrameType
  | serverKey
  | clientInfo
  | serverInfo
  | sendPacket
  | recvPacket
  | keepAlive
  | notePreferred
  | peerGone
  | peerPersistent
  | watchConns
  | closePeer
  | ping
  | pong
  deriving DecidableEq, Repr

/-- The `#[repr(u8)]` discriminant of a frame type, `frame_type as u8`. -/
def FrameType.toU8 : FrameType → UInt8
  | .serverKey => 0x01
  | .clientInfo => 0x02
  | .serverInfo => 0x03
  | .sendPacket => 0x04
  | .recvPacket => 0x05
  | .keepAlive => 0x06
  | .notePreferred => 0x07
  | .peerGone => 0x08
  | .peerPersistent => 0x09
  | .watchConns => 0x10
  | .closePeer => 0x11
  | .ping => 0x12
  | .pong => 0x13

/-- The errors `read_frame` and `write_frame` can return: a stream that ends inside a frame
(`read_exact`), an unknown type byte (`TryFromPrimitiveError`) and a payload too long for
the `u32` length field (`TryFromIntError`). -/
inductive Error
  | unexpectedEof
  | tryFromPrimitive (number : UInt8)
  | tryFromInt
  deriving DecidableEq, Repr

/-- `FrameType::try_from(u8)` as derived by `TryFromPrimitive`: the variant whose discriminant
is the byte. -/
def FrameType.tryFrom (number : UInt8) : Except Error FrameType :=
  match number with
  | 0x01 => .ok .serverKey
  | 0x02 => .ok .clientInfo
  | 0x03 => .ok .serverInfo
  | 0x04 => .ok .sendPacket
  | 0x05 => .ok .recvPacket
  | 0x06 => .ok .keepAlive
  | 0x07 => .ok .notePreferred
  | 0x08 => .ok .peerGone
  | 0x09 => .ok .peerPersistent
  | 0x10 => .ok .watchConns
  | 0x11 => .ok .closePeer
  | 0x12 => .ok .ping
  | 0x13 => .ok .pong
  | _ => .error (.tryFromPrimitive number)

@[simp] theorem FrameType.tryFrom_toU8 (t : FrameType) : FrameType.tryFrom t.toU8 = .ok t := by
  cases t <;> rfl

/-- `u32::to_be_bytes`. -/
def u32ToBeBytes (value : UInt32) : List UInt8 := toBytes 4 value.toNat

/-- `u32::from_be_bytes`, on the four bytes `read_exact` filled. -/
def u32FromBeBytes (buf : List UInt8) : UInt32 := UInt32.ofNat (ofBytes buf)

/-- `u32::try_from(usize)`: the length as a `u32`, when it fits. -/
def u32TryFrom (n : Nat) : Except Error UInt32 :=
  if n < 2 ^ 32 then .ok (UInt32.ofNat n) else .error .tryFromInt

/-- `AsyncReadExt::read_exact` into a buffer of `n` bytes: the first `n` bytes of the stream
and the rest of it, or `UnexpectedEof` when the stream ends first. -/
def readExact (n : Nat) (reader : List UInt8) : Except Error (List UInt8 × List UInt8) :=
  if n ≤ reader.length then .ok (reader.take n, reader.drop n) else .error .unexpectedEof

/-- `read_frame`: the type byte, the big-endian length, then exactly that many payload bytes.
Returns the frame and the unread rest of the stream. -/
def readFrame (reader : List UInt8) : Except Error ((FrameType × List UInt8) × List UInt8) := do
  let (buf, reader) ← readExact 1 reader
  -- `buf` holds exactly the one byte `read_exact` filled
  let frameType ← FrameType.tryFrom (buf.headD 0)
  let (buf, reader) ← readExact 4 reader
  let frameLength := u32FromBeBytes buf
  let (buf, reader) ← readExact frameLength.toNat reader
  pure ((frameType, buf), reader)

/-- `write_frame`: the frame's bytes are appended to what the writer already holds. -/
def writeFrame (writer : List UInt8) (frameType : FrameType) (data : List UInt8) :
    Except Error (List UInt8) := do
  let length ← u32TryFrom data.length
  let buf := [frameType.toU8] ++ u32ToBeBytes length ++ data
  pure (writer ++ buf)

/-- How the loop of `start_read` ends: with the error it returns, or in a panic. -/
inductive ReadEnd
  | error (e : Error)
  | panic
  deriving DecidableEq, Repr

/-- `PublicKey::try_from` on the `KEY_SIZE` bytes drained off the front of a packet, which
cannot fail. -/
def keyOfPrefix (data : List UInt8) (enough : keySize ≤ data.length) : PublicKey :=
  ⟨⟨(data.take keySize).toArray, by simp [enough]⟩⟩

theorem readExact_eq_ok {n : Nat} {reader buf rest : List UInt8}
    (h : readExact n reader = .ok (buf, rest)) : n ≤ reader.length ∧ rest = reader.drop n := by
  unfold readExact at h
  split at h
  · cases h
    exact ⟨‹_›, rfl⟩
  · cases h

/-- A frame takes at least its type byte off the stream. -/
theorem readFrame_rest_lt {reader rest : List UInt8} {frame : FrameType × List UInt8}
    (h : readFrame reader = .ok (frame, rest)) : rest.length < reader.length := by
  simp only [readFrame, bind, Except.bind] at h
  split at h
  · cases h
  · rename_i typeRead
    split at h
    · cases h
    · split at h
      · cases h
      · rename_i lengthRead
        split at h
        · cases h
        · rename_i payloadRead
          cases h
          have := readExact_eq_ok typeRead
          have := readExact_eq_ok lengthRead
          have := readExact_eq_ok payloadRead
          simp_all
          omega

/-- `start_read` over the server's stream, with the receiving half of the channel open: the
pairs it forwards and how the loop ends. `traceEnabled` is `log_enabled!(Trace)`, under which
the loop glances at the first byte after the key, `data[0]`. -/
def startRead (traceEnabled : Bool) (reader : List UInt8) :
    List (PublicKey × List UInt8) × ReadEnd :=
  match _read : readFrame reader with
  | .error e => ([], .error e)
  | .ok ((frameType, data), rest) =>
    match frameType with
    | .recvPacket =>
      -- `data.drain(0..KEY_SIZE)` panics on a packet shorter than a key
      if enough : keySize ≤ data.length then
        let publicKey := keyOfPrefix data enough
        let data := data.drop keySize
        if traceEnabled && data.isEmpty then ([], .panic)
        else
          let (sent, ended) := startRead traceEnabled rest
          ((publicKey, data) :: sent, ended)
      else ([], .panic)
    | _ => startRead traceEnabled rest
termination_by reader.length
decreasing_by all_goals exact readFrame_rest_lt _read

theorem startRead_of_error {traceEnabled : Bool} {reader : List UInt8} {e : Error}
    (read : readFrame reader = .error e) : startRead traceEnabled reader = ([], .error e) := by
  rw [startRead]
  split
  · rename_i read'
    rw [read] at read'
    cases read'
    rfl
  · rename_i read'
    rw [read] at read'
    cases read'

/-- One frame of the loop: a received packet is split at the key, or panics the loop; any
other frame is passed over. -/
theorem startRead_of_frame {traceEnabled : Bool} {reader rest data : List UInt8} {t : FrameType}
    (read : readFrame reader = .ok ((t, data), rest)) :
    startRead traceEnabled reader =
      match t with
      | .recvPacket =>
        if enough : keySize ≤ data.length then
          if traceEnabled && (data.drop keySize).isEmpty then ([], .panic)
          else
            let (sent, ended) := startRead traceEnabled rest
            ((keyOfPrefix data enough, data.drop keySize) :: sent, ended)
        else ([], .panic)
      | _ => startRead traceEnabled rest := by
  rw [startRead]
  split
  · rename_i read'
    rw [read] at read'
    cases read'
  · rename_i read'
    rw [read] at read'
    cases read'
    cases t <;> rfl

/-! The header fields. -/

theorem FrameType.toU8_of_tryFrom {number : UInt8} {t : FrameType}
    (known : FrameType.tryFrom number = .ok t) : t.toU8 = number := by
  unfold FrameType.tryFrom at known
  split at known <;> cases known <;> rfl

@[simp] theorem u32ToBeBytes_length (value : UInt32) : (u32ToBeBytes value).length = 4 :=
  toBytes_length 4 _

@[simp] theorem ofBytes_u32ToBeBytes (value : UInt32) :
    ofBytes (u32ToBeBytes value) = value.toNat :=
  ofBytes_toBytes 4 _ value.toNat_lt

/-- The length field written for a payload of `n < 2 ^ 32` bytes reads back as `n`. -/
theorem u32TryFrom_of_lt {n : Nat} (fits : n < 2 ^ 32) :
    u32TryFrom n = .ok (UInt32.ofNat n) ∧ (UInt32.ofNat n).toNat = n := by
  refine ⟨if_pos fits, ?_⟩
  rw [UInt32.toNat_ofNat']
  exact Nat.mod_eq_of_lt fits

/-- Four header bytes are the big-endian image of the length they denote. -/
theorem u32ToBeBytes_u32FromBeBytes {buf : List UInt8} (four : buf.length = 4) :
    u32ToBeBytes (u32FromBeBytes buf) = buf ∧ (u32FromBeBytes buf).toNat = ofBytes buf := by
  have fits : ofBytes buf < 2 ^ 32 := by
    have bound := ofBytes_lt buf
    rw [four] at bound
    simpa using bound
  have exact : (u32FromBeBytes buf).toNat = ofBytes buf := (u32TryFrom_of_lt fits).2
  refine ⟨?_, exact⟩
  rw [u32ToBeBytes, exact, ← four]
  exact toBytes_ofBytes buf

/-! Reading from a stream. -/

theorem readExact_of_le {n : Nat} {reader : List UInt8} (enough : n ≤ reader.length) :
    readExact n reader = .ok (reader.take n, reader.drop n) :=
  if_pos enough

@[simp] theorem readExact_append (buf rest : List UInt8) :
    readExact buf.length (buf ++ rest) = .ok (buf, rest) := by
  rw [readExact_of_le (by simp)]
  simp

/-- `write_frame` of a payload whose length fits in the `u32` field. -/
theorem writeFrame_of_lt (writer : List UInt8) (t : FrameType) {data : List UInt8}
    (fits : data.length < 2 ^ 32) :
    writeFrame writer t data =
      .ok (writer ++ (t.toU8 :: u32ToBeBytes (UInt32.ofNat data.length) ++ data)) := by
  simp [writeFrame, (u32TryFrom_of_lt fits).1]

/-- `read_frame` on a stream that starts with a known type byte and holds the whole payload
its length field announces. -/
theorem readFrame_of_header {number : UInt8} {t : FrameType} (known : FrameType.tryFrom number = .ok t)
    (tail : List UInt8) (header : 4 ≤ tail.length)
    (body : 4 + ofBytes (tail.take 4) ≤ tail.length) :
    readFrame (number :: tail) =
      .ok ((t, (tail.drop 4).take (ofBytes (tail.take 4))),
        (tail.drop 4).drop (ofBytes (tail.take 4))) := by
  have four : (tail.take 4).length = 4 := by simp [header]
  have length := (u32ToBeBytes_u32FromBeBytes four).2
  have typeByte : readExact 1 (number :: tail) = .ok ([number], tail) := by
    simp [readExact_of_le]
  have lengthField : readExact 4 tail = .ok (tail.take 4, tail.drop 4) := readExact_of_le header
  have payload : readExact (u32FromBeBytes (tail.take 4)).toNat (tail.drop 4) =
      .ok ((tail.drop 4).take (ofBytes (tail.take 4)), (tail.drop 4).drop (ofBytes (tail.take 4))) := by
    rw [length]
    exact readExact_of_le (by rw [List.length_drop]; omega)
  simp only [readFrame, typeByte, lengthField, payload, List.headD_cons, known, bind, Except.bind,
    pure, Except.pure]

/-- The DERP frame codec round trip. Reading back the bytes `write_frame` produced, followed
by any further stream, yields the frame and leaves exactly the further stream; and a stream
that starts with a known type byte and holds the payload its big-endian length announces is
read as that type and payload, which `write_frame` turns back into the stream's prefix. -/
theorem read_frame_write_frame_roundtrip :
    (∀ (t : FrameType) (data rest : List UInt8), data.length < 2 ^ 32 →
      ∃ bytes, writeFrame [] t data = .ok bytes ∧ bytes.length = 5 + data.length ∧
        readFrame (bytes ++ rest) = .ok ((t, data), rest)) ∧
    (∀ (number : UInt8) (tail : List UInt8) (t : FrameType),
      FrameType.tryFrom number = .ok t → 4 ≤ tail.length →
      4 + ofBytes (tail.take 4) ≤ tail.length →
      readFrame (number :: tail) =
          .ok ((t, (tail.drop 4).take (ofBytes (tail.take 4))),
            tail.drop (4 + ofBytes (tail.take 4))) ∧
        writeFrame [] t ((tail.drop 4).take (ofBytes (tail.take 4))) =
          .ok ((number :: tail).take (5 + ofBytes (tail.take 4)))) := by
  refine ⟨?_, ?_⟩
  · intro t data rest fits
    refine ⟨t.toU8 :: u32ToBeBytes (UInt32.ofNat data.length) ++ data,
      by simp [writeFrame_of_lt [] t fits], by simp; omega, ?_⟩
    have length := (u32TryFrom_of_lt fits).2
    have stream : t.toU8 :: u32ToBeBytes (UInt32.ofNat data.length) ++ data ++ rest =
        t.toU8 :: (u32ToBeBytes (UInt32.ofNat data.length) ++ (data ++ rest)) := by simp
    rw [stream, readFrame_of_header (FrameType.tryFrom_toU8 t) _ (by simp) (by simp [length])]
    simp [length]
  · intro number tail t known header body
    refine ⟨?_, ?_⟩
    · rw [readFrame_of_header known tail header body, List.drop_drop, Nat.add_comm]
    · have four : (tail.take 4).length = 4 := by simp [header]
      have fits : ((tail.drop 4).take (ofBytes (tail.take 4))).length < 2 ^ 32 := by
        have bound := ofBytes_lt (tail.take 4)
        rw [four] at bound
        simp only [List.length_take, List.length_drop]
        omega
      have payload : ((tail.drop 4).take (ofBytes (tail.take 4))).length =
          ofBytes (tail.take 4) := by
        simp only [List.length_take, List.length_drop]
        omega
      rw [writeFrame_of_lt [] t fits, payload, FrameType.toU8_of_tryFrom known]
      have field := (u32ToBeBytes_u32FromBeBytes four)
      rw [u32FromBeBytes] at field
      rw [field.1]
      simp [List.take_add]

/-- The round trip at the five-byte `hello` payload of the source's tests, followed by one
more byte of stream. -/
theorem read_frame_hello_roundtrip :
    ∃ bytes, writeFrame [] .serverKey [104, 101, 108, 108, 111] = .ok bytes ∧
      bytes.length = 5 + 5 ∧
      readFrame (bytes ++ [33]) = .ok ((.serverKey, [104, 101, 108, 108, 111]), [33]) :=
  read_frame_write_frame_roundtrip.1 .serverKey _ _ (by decide)

end Libtelio.TelioRelay.Derp
