import RebasingProxy.Bases

/-! # The line buffer

A body arrives in chunks that may end anywhere. The buffer holds at most one
unfinished line; each completed line is rebased and let go, line feed included. An
unfinished line longer than `maxLine` is flushed early, except for an end that may
still begin an occurrence of the internal base.
-/
namespace RebasingProxy
open Occurrence

structure LineBuffer where
  bases : Bases
  maxLine : Nat
  held : Bytes := []
  /-- Bytes at the front of `held` known to contain no line feed. -/
  scanned : Nat := 0
deriving DecidableEq, Repr

namespace LineBuffer

def prependFirst (front : Bytes) : List Bytes × Bytes → List Bytes × Bytes
  | ([], last) => ([], front ++ last)
  | (line :: lines, last) => ((front ++ line) :: lines, last)

/-- The completed lines without their line feeds, and the unfinished rest. The first
`scanned` bytes are not searched again. -/
def cutLines (scanned : Nat) (text : Bytes) : List Bytes × Bytes :=
  prependFirst (text.take scanned) (gaps [Bytes.lineFeed] (text.drop scanned))

/-- Takes one chunk and returns what became ready to send; this is empty when the chunk
completes no line and the unfinished one is not too long. -/
def push (buffer : LineBuffer) (chunk : Bytes) : Bytes × LineBuffer :=
  let (lines, rest) := cutLines buffer.scanned (buffer.held ++ chunk)
  let completed := lines.flatMap fun line => buffer.bases.rebase line ++ [Bytes.lineFeed]
  if rest.length > buffer.maxLine then
    let flushed := buffer.bases.pass true rest
    let kept := rest.drop flushed.taken
    (completed ++ flushed.ready, { buffer with held := kept, scanned := kept.length })
  else
    (completed, { buffer with held := rest, scanned := rest.length })

def finish (buffer : LineBuffer) : Option Bytes × LineBuffer :=
  if buffer.held.isEmpty then (none, buffer)
  else (some (buffer.bases.rebase buffer.held), { buffer with held := [], scanned := 0 })

end LineBuffer

end RebasingProxy
