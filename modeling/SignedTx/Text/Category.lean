import SignedTx.Text.Category.Alphabetic
import SignedTx.Text.Category.Marks
import SignedTx.Text.Category.Numbers
import SignedTx.Text.Category.Unassigned

/-!
# Classes of characters

Which characters leave a mark of their own on the page, which are blank, and which are letters or
numbers of some script. Controls, format characters, fillers, blanks other than the space and
private characters leave no mark, nor do code points that no character has.
-/

set_option autoImplicit false

namespace SignedTx.Category

/-- Controls, format characters, fillers, blanks other than the space, and private characters. -/
def unseen : Ranges := [
  (0x0, 0x1f), (0x7f, 0xa0), (0xad, 0xad), (0x600, 0x605), (0x61c, 0x61c), (0x6dd, 0x6dd),
  (0x70f, 0x70f), (0x890, 0x891), (0x8e2, 0x8e2), (0x115f, 0x1160), (0x1680, 0x1680),
  (0x180e, 0x180e), (0x2000, 0x200f), (0x2028, 0x202f), (0x205f, 0x2064), (0x2066, 0x206f),
  (0x3000, 0x3000), (0x3164, 0x3164), (0xe000, 0xf8ff), (0xfeff, 0xfeff), (0xffa0, 0xffa0),
  (0xfff9, 0xfffb), (0x110bd, 0x110bd), (0x110cd, 0x110cd), (0x13430, 0x1343f), (0x1bca0, 0x1bca3),
  (0x1d173, 0x1d17a), (0xe0001, 0xe0001), (0xe0020, 0xe007f), (0xf0000, 0xffffd),
  (0x100000, 0x10fffd)]

def isVisible (c : Char) : Bool := !unseen.holds c && !marks.holds c && !unassigned.holds c

/-- Blanks: spaces of every width, tabs and line ends. -/
def blanks : Ranges := [
  (0x9, 0xd), (0x20, 0x20), (0x85, 0x85), (0xa0, 0xa0), (0x1680, 0x1680), (0x2000, 0x200a),
  (0x2028, 0x2029), (0x202f, 0x202f), (0x205f, 0x205f), (0x3000, 0x3000)]

def isBlank (c : Char) : Bool := blanks.holds c

def isAlphabetic (c : Char) : Bool := alphabetic.holds c

def isAlphanumeric (c : Char) : Bool := isAlphabetic c || numbers.holds c

end SignedTx.Category
