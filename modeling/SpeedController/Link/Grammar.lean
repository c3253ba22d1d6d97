import SpeedController.Link.Message

/-!
# Grammar of the link

What a whole byte string means, without a decoder that goes through it byte by byte. Between requests
a byte other than the two kind bytes means nothing; the kind byte of a READ is a READ; the kind byte
of a WRITE and the payload behind it are a WRITE.
-/

namespace SpeedController.Link

/-- What a byte string holds: its complete requests, each with the position of its last byte, and the
payload of a WRITE that the end of the string cuts off. -/
structure Reading where
  requests : List (Nat × Request)
  cutOff : Option (List UInt8)
  deriving DecidableEq, Repr

/-- Put requests in front of a reading. -/
def Reading.after (r : Reading) (requests : List (Nat × Request)) : Reading :=
  { r with requests := requests ++ r.requests }

/-- Read a byte string whose first byte has the given position. -/
def Reading.ofBytes (v : Version) (position : Nat) : List UInt8 → Reading
  | [] => ⟨[], none⟩
  | byte :: rest =>
    if byte = readKind then (ofBytes v (position + 1) rest).after [(position, .read)]
    else if byte = writeKind then
      if rest.length < v.payloadLength then ⟨[], some rest⟩
      else
        let last := position + v.payloadLength
        let write := WriteRequest.ofPayload? v (rest.take v.payloadLength)
        (ofBytes v (last + 1) (rest.drop v.payloadLength)).after
          (write.toList.map fun w => (last, .write w))
    else ofBytes v (position + 1) rest
termination_by bytes => bytes.length
decreasing_by all_goals simp only [List.length_cons, List.length_drop]; omega

end SpeedController.Link
