import Mathlib.Data.List.Basic
import PathKeeper.Proofs.Source.Framing

/-!
# Inputs in chunks

A reader is asked for more until it has no more bytes or fails. The chunks in which the bytes of a
text come do not matter, and neither does what the reader would answer afterwards: the changes are
those of the lines of the text. The line that is still open counts at the end of the input and is
lost when the reader fails.
-/

namespace PathKeeper.Source

set_option autoImplicit false

open Text

section Ends

variable {chunks : List (List UInt8)} (h : ∀ chunk ∈ chunks, chunk ≠ []) (later : List Answer)
include h

end Ends

/-! ## The lines of a text -/

end PathKeeper.Source
