import RebasingProxy.Bytes
import RebasingProxy.Occurrence

/-! # The two bases of a link

The backend writes links under the internal base; clients are to see them under the
external base. Rebasing replaces the leftmost non-overlapping occurrences of the
internal base. While more text may follow, the last bytes could still begin an
occurrence, so a pass can hold them back.
-/
namespace RebasingProxy
open Occurrence

structure Bases where
  internal : Bytes
  external : Bytes
deriving DecidableEq, Repr

/-- What one pass over a text settles: the bytes ready to be sent, and how many bytes
of the text they account for. -/
structure Pass where
  ready : Bytes
  taken : Nat
deriving DecidableEq, Repr

namespace Bases

def overlap (bases : Bases) : Nat := bases.internal.length - 1

/-- Replaces every leftmost non-overlapping occurrence of the internal base. With
`holdTail`, up to `overlap` bytes behind the last occurrence stay untaken. -/
def pass (bases : Bases) (holdTail : Bool) (text : Bytes) : Pass :=
  let (before, last) := gaps bases.internal text
  let held := if holdTail then min bases.overlap last.length else 0
  { ready := before.flatMap (· ++ bases.external) ++ last.take (last.length - held)
    taken := text.length - held }

def rebase (bases : Bases) (text : Bytes) : Bytes := (bases.pass false text).ready

end Bases

end RebasingProxy
