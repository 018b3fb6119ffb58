import ConstrainedDecoding.Unicode.Derived

/-!
Properties by version 17 of the standard, which has more characters than the tables of properties
that patterns can name.
-/

namespace ConstrainedDecoding.Unicode

def newAlphabetic : String :=
  "88f c5c cdc a7ce-a7cf a7d2 a7d4 a7f1 10940-10959 10ec5-10ec7 10efa-10efb 11b60-11b67 11db0-11ddb
   16ea0-16eb8 16ebb-16ed3 16ff2-16ff6 187f8-187ff 18d09-18d1e 18d80-18df2 1e6c0-1e6de 1e6e0-1e6f5
   1e6fe-1e6ff 2b73a-2b73f 2cea2-2cead 323b0-33479"

def newNumeric : String := "11de0-11de9 16ff4-16ff6"

/-- New characters that are seen by themselves. -/
def newVisible : String :=
  "88f c5c cdc 20c1 2b96 a7ce-a7cf a7d2 a7d4 a7f1 fbc3-fbd2 fd90-fd91 fdc8-fdce 10940-10959
   10ec5-10ec7 10ed0-10ed8 11b61 11b65 11b67 11db0-11ddb 11de0-11de9 16ea0-16eb8 16ebb-16ed3
   16ff2-16ff6 187f8-187ff 18d09-18d1e 18d80-18df2 1ccfa-1ccfc 1ceba-1ced0 1cee0-1cef0 1e6c0-1e6de
   1e6e0-1e6e2 1e6e4-1e6e5 1e6e7-1e6ed 1e6f0-1e6f4 1e6fe-1e6ff 1f6d8 1f777-1f77a 1f8d0-1f8d8
   1fa54-1fa57 1fa8a 1fa8e 1fac8 1facd 1faea 1faef 1fbfa 2b73a-2b73f 2cea2-2cead 323b0-33479"

def currentAlphabetic : Thunk (IntervalSet Char) :=
  Thunk.mk fun _ => alphabetic.get.union (decodeRanges newAlphabetic)

def currentNumeric : Thunk (IntervalSet Char) :=
  Thunk.mk fun _ => (inCategories ["n"]).union (decodeRanges newNumeric)

def isAlphabetic (c : Char) : Bool :=
  c.isAlpha || (128 ≤ c.toNat && currentAlphabetic.get.contains c)

def isNumeric (c : Char) : Bool :=
  c.isDigit || (128 ≤ c.toNat && currentNumeric.get.contains c)

/-- Characters outside of ASCII that are not seen by themselves: controls, spaces, marks and
fillers, but not the two half-width sound marks, which have a width of their own. -/
def hidden : Thunk (IntervalSet Char) :=
  Thunk.mk fun _ =>
    let marks := graphemeExtend.diff (decodeRanges "ff9e-ff9f")
    let all := IntervalSet.ofList
      (inCategories ["c", "zl", "zp", "zs"] ++ marks ++ listed "defaultignorablecodepoint")
    all.diff (decodeRanges newVisible)

end ConstrainedDecoding.Unicode
