import FwRouter.Python.Text

/-!
# `hashlib.sha256`

What is used of a digest is that it is a function of the bytes and 64 lower-case hexadecimal digits.
-/

namespace Py

/-- `hashlib.sha256(...).hexdigest()`. -/
structure Sha256 where
  hexdigest : List UInt8 → Text
  length_hexdigest : ∀ bytes, (hexdigest bytes).length = 64
  hexadecimal : ∀ bytes, ∀ c ∈ hexdigest bytes, c ∈ "0123456789abcdef".toList

end Py
