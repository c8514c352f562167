/-!
# Frames

What a session carries: texts and byte strings.
-/

namespace SteadyLink

/-- What is sent at once. -/
inductive Frame where
  | text (body : String)
  | binary (body : ByteArray)

instance : DecidableEq Frame
  | .text a, .text b =>
    decidable_of_decidable_of_iff (p := a = b) ⟨congrArg Frame.text, Frame.text.inj⟩
  | .binary a, .binary b =>
    @decidable_of_decidable_of_iff (a = b) _ (ByteArray.instDecidableEq a b)
      ⟨congrArg Frame.binary, Frame.binary.inj⟩
  | .text _, .binary _ => isFalse nofun
  | .binary _, .text _ => isFalse nofun

namespace Frame

def len : Frame → Nat
  | text body => body.utf8ByteSize
  | binary body => body.size

def isEmpty (f : Frame) : Bool := f.len = 0

/-- The body as text. Bytes that are not UTF-8 are none. -/
def text? : Frame → Option String
  | text body => some body
  | binary body => String.fromUTF8? body

end Frame

end SteadyLink
