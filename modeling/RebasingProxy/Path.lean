import RebasingProxy.Occurrence

/-! # Request paths

A bind path that ends in a slash serves the whole subtree under it, any other serves
the exact path only. Behind the proxy the first occurrence of the bind path is replaced
by the backend's path.
-/
namespace RebasingProxy.Path
open Occurrence

def endsInSlash (path : String) : Bool := path.toList.getLast? == some '/'

def isBoundBy (path bindPath : String) : Bool :=
  if endsInSlash bindPath then bindPath.toList.isPrefixOf path.toList else path == bindPath

/-- The path asked of the backend; without an occurrence of the bind path it is the
request path itself. -/
def rebased (path bindPath backendPath : String) : String :=
  match firstMatch? bindPath.toList path.toList with
  | some (before, after) => String.ofList (before ++ backendPath.toList ++ after)
  | none => path

end RebasingProxy.Path
