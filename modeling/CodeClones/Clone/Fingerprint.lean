import CodeClones.Digest.Sha1
import CodeClones.Node.Basic

/-!
# Fingerprints

The fingerprint of a clone is the digest of the tokens of all its nodes, group after group, with a
colon between each two. Where one group ends and the next starts leaves no trace in it.
-/

namespace CodeClones

/-- What stands between two tokens. -/
def tokenSeparator : String := ":"

/-- The tokens of all groups in order. -/
def tokens (groups : List (List Node)) : List String :=
  groups.flatten.map Node.token

/-- The text whose digest is the fingerprint. -/
def tokenStream (groups : List (List Node)) : String :=
  tokenSeparator.intercalate (tokens groups)

/-- The fingerprint of a list of groups. -/
def fingerprint (groups : List (List Node)) : String :=
  Sha1.hexOfText (tokenStream groups)

end CodeClones
