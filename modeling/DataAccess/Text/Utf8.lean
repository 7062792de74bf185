/-! Reading bytes as text without failing: well-formed UTF-8 sequences become their characters,
and each maximal part of a broken one becomes a single replacement character. -/
namespace DataAccess.Text

def replacement : Char := Char.ofNat 0xFFFD

/-- The continuation bytes that a leading byte calls for, each with its allowed range; nothing
for a byte that starts no sequence. The narrowed first ranges keep out overlong forms, surrogates
and numbers beyond the last character. -/
def continuationRanges (lead : Nat) : Option (List (Nat × Nat)) :=
  let any := (0x80, 0xBF)
  if lead < 0x80 then some []
  else if 0xC2 ≤ lead ∧ lead ≤ 0xDF then some [any]
  else if lead = 0xE0 then some [(0xA0, 0xBF), any]
  else if lead = 0xED then some [(0x80, 0x9F), any]
  else if 0xE1 ≤ lead ∧ lead ≤ 0xEF then some [any, any]
  else if lead = 0xF0 then some [(0x90, 0xBF), any, any]
  else if lead = 0xF4 then some [(0x80, 0x8F), any, any]
  else if 0xF1 ≤ lead ∧ lead ≤ 0xF3 then some [any, any, any]
  else none

def leadPayload (lead : Nat) : Nat :=
  if lead < 0x80 then lead
  else if lead < 0xE0 then lead % 0x20
  else if lead < 0xF0 then lead % 0x10
  else lead % 0x08

/-- A sequence that is being read: the payload so far and the ranges of the bytes still due. -/
abbrev PendingSequence := Option (Nat × List (Nat × Nat))

/-- Begin a sequence with a byte that continues none. -/
def beginSequence (b : Nat) : List Char × PendingSequence :=
  match continuationRanges b with
  | none => ([replacement], none)
  | some [] => ([Char.ofNat b], none)
  | some ranges => ([], some (leadPayload b, ranges))

/-- Take one byte: the characters that it completes or breaks off, and what is pending then. -/
def takeByte (b : Nat) : PendingSequence → List Char × PendingSequence
  | some (payload, (low, high) :: ranges) =>
    if low ≤ b ∧ b ≤ high then
      let value := payload * 0x40 + b % 0x40
      if ranges.isEmpty then ([Char.ofNat value], none) else ([], some (value, ranges))
    else
      let (begun, pending) := beginSequence b
      (replacement :: begun, pending)
  | _ => beginSequence b

def decodeFrom (pending : PendingSequence) : List UInt8 → List Char
  | [] => if pending.isSome then [replacement] else []
  | byte :: rest =>
    let (done, pending) := takeByte byte.toNat pending
    done ++ decodeFrom pending rest

def decodeLossy (bytes : List UInt8) : String := String.ofList (decodeFrom none bytes)

end DataAccess.Text
