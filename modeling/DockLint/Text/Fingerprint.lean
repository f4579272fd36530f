/-!
# Fingerprints

A fingerprint is one number made of several (FNV-1a, over whole numbers), which differs for most of
what is short.
-/

namespace DockLint.Text

def fingerprint (ns : List Nat) : UInt64 :=
  ns.foldl (fun h n => (h ^^^ n.toUInt64) * 1099511628211) 14695981039346656037

end DockLint.Text
