/-!
# Word sizes

`span n` values fit a word of `n` bits. A signed word of `n + 1` bits holds the integers from
`-span n` up to, but without, `span n`.
-/

namespace PromptGraph.Word

def span31 : Nat := 2147483648

def span32 : Nat := 4294967296

def span63 : Nat := 9223372036854775808

def span64 : Nat := 18446744073709551616

def span127 : Nat := 170141183460469231731687303715884105728

def span128 : Nat := 340282366920938463463374607431768211456

end PromptGraph.Word
