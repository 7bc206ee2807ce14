/-!
# Word characters

A word character is a code point that is alphabetic, a mark, a decimal digit, a connector
punctuation mark or a join control.
-/

namespace Deckwright.Unicode

/-- The runs of word characters. -/
def wordRuns : List Nat := [
  0x30, 0x9, 0x6, 0x19, 0x3, 0x0, 0x0, 0x19, 0x2E, 0x0, 0x9, 0x0, 0x3, 0x0, 0x4, 0x16, 0x0,
  0x1E, 0x0, 0x1C9, 0x3, 0xB, 0xD, 0x4, 0x6, 0x0, 0x0, 0x0, 0x10, 0x74, 0x0, 0x1, 0x1, 0x3, 0x0,
  0x0, 0x5, 0x0, 0x0, 0x2, 0x0, 0x0, 0x0, 0x13, 0x0, 0x52, 0x0, 0x8A, 0x0, 0xAC, 0x0, 0x25, 0x1,
  0x0, 0x5, 0x28, 0x7, 0x2C, 0x0, 0x0, 0x0, 0x1, 0x0, 0x1, 0x0, 0x0, 0x7, 0x1A, 0x3, 0x3, 0x1C,
  0xA, 0x4, 0x49, 0x3, 0x65, 0x0, 0x7, 0x1, 0x9, 0x0, 0x12, 0x1, 0x0, 0xF, 0x3A, 0x1, 0x64, 0xD,
  0x35, 0x3, 0x0, 0x1, 0x0, 0x1, 0x2D, 0x11, 0x1B, 0x3, 0xA, 0x4, 0x17, 0x0, 0x5, 0x7, 0x4A,
  0x0, 0x80, 0x1, 0x9, 0x0, 0x12, 0x0, 0x7, 0x1, 0x1, 0x1, 0x15, 0x0, 0x6, 0x0, 0x0, 0x2, 0x3,
  0x1, 0x8, 0x1, 0x1, 0x1, 0x3, 0x7, 0x0, 0x3, 0x1, 0x0, 0x4, 0x1, 0xB, 0x9, 0x0, 0x0, 0x0, 0x1,
  0x2, 0x0, 0x5, 0x3, 0x1, 0x1, 0x15, 0x0, 0x6, 0x0, 0x1, 0x0, 0x1, 0x0, 0x1, 0x1, 0x0, 0x0,
  0x4, 0x3, 0x1, 0x1, 0x2, 0x2, 0x0, 0x6, 0x3, 0x0, 0x0, 0x6, 0xF, 0xA, 0x2, 0x0, 0x8, 0x0, 0x2,
  0x0, 0x15, 0x0, 0x6, 0x0, 0x1, 0x0, 0x4, 0x1, 0x9, 0x0, 0x2, 0x0, 0x2, 0x1, 0x0, 0xE, 0x3,
  0x1, 0x9, 0x8, 0x6, 0x0, 0x2, 0x0, 0x7, 0x1, 0x1, 0x1, 0x15, 0x0, 0x6, 0x0, 0x1, 0x0, 0x4,
  0x1, 0x8, 0x1, 0x1, 0x1, 0x2, 0x6, 0x2, 0x3, 0x1, 0x0, 0x4, 0x1, 0x9, 0x0, 0x0, 0xF, 0x1, 0x0,
  0x5, 0x2, 0x2, 0x0, 0x3, 0x2, 0x1, 0x0, 0x0, 0x0, 0x1, 0x2, 0x1, 0x2, 0x2, 0x2, 0xB, 0x3, 0x4,
  0x2, 0x2, 0x0, 0x3, 0x1, 0x0, 0x5, 0x0, 0xD, 0x9, 0xF, 0xC, 0x0, 0x2, 0x0, 0x16, 0x0, 0xF,
  0x1, 0x8, 0x0, 0x2, 0x0, 0x3, 0x6, 0x1, 0x0, 0x2, 0x1, 0x0, 0x1, 0x3, 0x1, 0x9, 0xF, 0x3, 0x0,
  0x7, 0x0, 0x2, 0x0, 0x16, 0x0, 0x9, 0x0, 0x4, 0x1, 0x8, 0x0, 0x2, 0x0, 0x3, 0x6, 0x1, 0x5,
  0x1, 0x0, 0x3, 0x1, 0x9, 0x0, 0x2, 0xB, 0xC, 0x0, 0x2, 0x0, 0x32, 0x0, 0x2, 0x0, 0x4, 0x4,
  0x3, 0x6, 0x4, 0x1, 0x9, 0x9, 0x5, 0x0, 0x2, 0x0, 0x11, 0x2, 0x17, 0x0, 0x8, 0x0, 0x0, 0x1,
  0x6, 0x2, 0x0, 0x3, 0x5, 0x0, 0x0, 0x0, 0x7, 0x5, 0x9, 0x1, 0x1, 0xC, 0x39, 0x4, 0xE, 0x0,
  0x9, 0x26, 0x1, 0x0, 0x0, 0x0, 0x4, 0x0, 0x17, 0x0, 0x0, 0x0, 0x16, 0x1, 0x4, 0x0, 0x0, 0x0,
  0x6, 0x0, 0x9, 0x1, 0x3, 0x1F, 0x0, 0x16, 0x1, 0x5, 0x9, 0xA, 0x0, 0x0, 0x0, 0x0, 0x0, 0x3,
  0x9, 0x0, 0x23, 0x3, 0x13, 0x0, 0x11, 0x0, 0x23, 0x8, 0x0, 0x38, 0x49, 0x5, 0x4D, 0x1, 0x25,
  0x0, 0x0, 0x4, 0x0, 0x1, 0x2A, 0x0, 0x14C, 0x0, 0x3, 0x1, 0x6, 0x0, 0x0, 0x0, 0x3, 0x1, 0x28,
  0x0, 0x3, 0x1, 0x20, 0x0, 0x3, 0x1, 0x6, 0x0, 0x0, 0x0, 0x3, 0x1, 0xE, 0x0, 0x38, 0x0, 0x3,
  0x1, 0x42, 0x1, 0x2, 0x1F, 0xF, 0xF, 0x55, 0x1, 0x5, 0x2, 0x26B, 0x1, 0x10, 0x0, 0x19, 0x4,
  0x4A, 0x2, 0xA, 0x6, 0x15, 0x8, 0x15, 0xA, 0x13, 0xB, 0xC, 0x0, 0x2, 0x0, 0x1, 0xB, 0x53, 0x2,
  0x0, 0x3, 0x1, 0x1, 0x9, 0x20, 0x2, 0x0, 0xA, 0x5, 0x58, 0x6, 0x2A, 0x4, 0x45, 0x9, 0x1E, 0x0,
  0xB, 0x3, 0xB, 0x9, 0x27, 0x1, 0x4, 0xA, 0x2B, 0x3, 0x19, 0x5, 0x9, 0x25, 0x1B, 0x3, 0x3E,
  0x0, 0x1C, 0x1, 0xA, 0x5, 0x9, 0xC, 0x0, 0x7, 0x1E, 0x30, 0x4C, 0x2, 0x9, 0x10, 0x8, 0xB,
  0x73, 0xB, 0x37, 0x7, 0x9, 0x2, 0x30, 0x1, 0xA, 0x4, 0x2A, 0x1, 0x2, 0xF, 0x2, 0x0, 0x26, 0x4,
  0x215, 0x1, 0x5, 0x1, 0x25, 0x1, 0x5, 0x1, 0x7, 0x0, 0x0, 0x0, 0x0, 0x0, 0x0, 0x0, 0x1E, 0x1,
  0x34, 0x0, 0x6, 0x0, 0x0, 0x2, 0x2, 0x0, 0x6, 0x2, 0x3, 0x1, 0x5, 0x3, 0xC, 0x4, 0x2, 0x0,
  0x6, 0xE, 0x1, 0x30, 0x1, 0x12, 0x0, 0x1B, 0x0, 0xC, 0x0, 0xF, 0xC, 0x32, 0x20, 0x10, 0x0,
  0x3, 0x0, 0x1, 0x9, 0x0, 0x0, 0x2, 0x4, 0x5, 0x0, 0x0, 0x0, 0x0, 0x0, 0x0, 0x3, 0x0, 0xA, 0x1,
  0x3, 0x4, 0x4, 0x3, 0x0, 0x10, 0x28, 0x32C, 0x33, 0x715, 0xE4, 0x5, 0x8, 0xB, 0x25, 0x0, 0x0,
  0x4, 0x0, 0x1, 0x37, 0x6, 0x0, 0xE, 0x17, 0x8, 0x6, 0x0, 0x6, 0x0, 0x6, 0x0, 0x6, 0x0, 0x6,
  0x0, 0x6, 0x0, 0x6, 0x0, 0x6, 0x0, 0x1F, 0x2E, 0x0, 0x1D4, 0x2, 0x18, 0xE, 0x0, 0x4, 0x1, 0x4,
  0x3, 0x55, 0x1, 0x1, 0x1, 0x2, 0x0, 0x59, 0x0, 0x3, 0x4, 0x2A, 0x0, 0x5D, 0x10, 0x1F, 0x2F,
  0xF, 0x1FF, 0x19BF, 0x3F, 0x568C, 0x42, 0x2D, 0x1, 0x10C, 0x2, 0x1B, 0x13, 0x32, 0x0, 0x9,
  0x0, 0x72, 0x24, 0x8, 0x1, 0x66, 0x1, 0x42, 0x1, 0x1, 0x0, 0x0, 0x0, 0x7, 0x14, 0x35, 0x3,
  0x0, 0x12, 0x33, 0xB, 0x45, 0x9, 0x9, 0x5, 0x17, 0x2, 0x0, 0x0, 0x30, 0x1, 0x23, 0xB, 0x1C,
  0x2, 0x40, 0xD, 0xA, 0x5, 0x1E, 0x0, 0x36, 0x8, 0xD, 0x1, 0x9, 0x5, 0x16, 0x2, 0x48, 0x17,
  0x2, 0x1, 0xF, 0x1, 0x4, 0x9, 0x5, 0x1, 0x5, 0x1, 0x5, 0x8, 0x6, 0x0, 0x6, 0x0, 0x2A, 0x0,
  0xD, 0x5, 0x7A, 0x0, 0x1, 0x1, 0x9, 0x5, 0x2BA3, 0xB, 0x16, 0x3, 0x30, 0x2103, 0x16D, 0x1,
  0x69, 0x25, 0x6, 0xB, 0x4, 0x4, 0xB, 0x0, 0xC, 0x0, 0x4, 0x0, 0x0, 0x0, 0x1, 0x0, 0x1, 0x0,
  0x6B, 0x20, 0x16A, 0x11, 0x3F, 0x1, 0x35, 0x27, 0xB, 0x3, 0xF, 0xF, 0xF, 0x2, 0x1, 0x17, 0x2,
  0x1F, 0x4, 0x0, 0x86, 0x12, 0x9, 0x6, 0x19, 0x3, 0x0, 0x0, 0x19, 0xA, 0x58, 0x2, 0x5, 0x1,
  0x5, 0x1, 0x5, 0x1, 0x2, 0x22, 0xB, 0x0, 0x19, 0x0, 0x12, 0x0, 0x1, 0x0, 0xE, 0x1, 0xD, 0x21,
  0x7A, 0x44, 0x34, 0x87, 0x0, 0x81, 0x1C, 0x2, 0x30, 0xE, 0x0, 0x1E, 0x1F, 0xC, 0x1D, 0x4,
  0x2A, 0x4, 0x1D, 0x1, 0x23, 0x3, 0x7, 0x0, 0x4, 0x29, 0x9D, 0x1, 0x9, 0x5, 0x23, 0x3, 0x23,
  0x3, 0x27, 0x7, 0x33, 0xB, 0xA, 0x0, 0xE, 0x0, 0x6, 0x0, 0x1, 0x0, 0xA, 0x0, 0xE, 0x0, 0x6,
  0x0, 0x1, 0x2, 0x33, 0xB, 0x136, 0x8, 0x15, 0x9, 0x7, 0x17, 0x5, 0x0, 0x29, 0x0, 0x8, 0x44,
  0x5, 0x1, 0x0, 0x0, 0x2B, 0x0, 0x1, 0x2, 0x0, 0x1, 0x16, 0x9, 0x16, 0x8, 0x1E, 0x40, 0x12,
  0x0, 0x1, 0x9, 0x15, 0x9, 0x19, 0x45, 0x37, 0x5, 0x1, 0x3F, 0x3, 0x0, 0x1, 0x4, 0x7, 0x0, 0x2,
  0x0, 0x1C, 0x1, 0x2, 0x3, 0x0, 0x1F, 0x1C, 0x2, 0x1C, 0x22, 0x7, 0x0, 0x1D, 0x18, 0x35, 0x9,
  0x15, 0x9, 0x12, 0xC, 0x11, 0x6D, 0x48, 0x36, 0x32, 0xC, 0x32, 0xC, 0x27, 0x7, 0x9, 0x5, 0x25,
  0x2, 0x4, 0x0, 0x16, 0xF9, 0x29, 0x0, 0x1, 0x2, 0x1, 0xF, 0x2, 0x36, 0x20, 0x9, 0x0, 0x7,
  0x20, 0x1E, 0x15, 0x29, 0x14, 0x1A, 0x16, 0x8, 0x46, 0x1E, 0xF, 0x8, 0x3B, 0x6, 0x0, 0xC,
  0x18, 0x6, 0x9, 0x5, 0x34, 0x0, 0x9, 0x3, 0x3, 0x7, 0x23, 0x1, 0x0, 0x8, 0x44, 0x3, 0x3, 0x0,
  0xC, 0x0, 0x0, 0x22, 0x11, 0x0, 0x24, 0x5, 0x3, 0x3D, 0x6, 0x0, 0x0, 0x0, 0x3, 0x0, 0xE, 0x0,
  0x9, 0x6, 0x3A, 0x4, 0x9, 0x5, 0x3, 0x0, 0x7, 0x1, 0x1, 0x1, 0x15, 0x0, 0x6, 0x0, 0x1, 0x0,
  0x4, 0x0, 0x9, 0x1, 0x1, 0x1, 0x2, 0x1, 0x0, 0x5, 0x0, 0x4, 0x6, 0x1, 0x6, 0x2, 0x4, 0xA, 0x9,
  0x0, 0x0, 0x1, 0x0, 0x0, 0x25, 0x0, 0x9, 0x0, 0x0, 0x1, 0x0, 0x0, 0x3, 0x0, 0x7, 0xC, 0x1,
  0x1C, 0x4A, 0x4, 0x9, 0x3, 0x3, 0x1D, 0x45, 0x0, 0x0, 0x7, 0x9, 0xA5, 0x35, 0x1, 0x8, 0x16,
  0x5, 0x21, 0x40, 0x2, 0x0, 0xA, 0x9, 0x25, 0x38, 0x6, 0x9, 0x5, 0x13, 0x1B, 0x1A, 0x1, 0xE,
  0x3, 0x9, 0x5, 0x6, 0xB8, 0x3A, 0x64, 0x49, 0x14, 0x7, 0x1, 0x0, 0x1, 0x7, 0x0, 0x1, 0x0,
  0x1D, 0x0, 0x1, 0x1, 0x8, 0xB, 0x9, 0x45, 0x7, 0x1, 0x2D, 0x1, 0x7, 0x0, 0x1, 0x1A, 0x3E, 0x7,
  0x0, 0x7, 0x49, 0x2, 0x0, 0x11, 0x48, 0xC6, 0x20, 0xE, 0x9, 0x5, 0x8, 0x0, 0x2C, 0x0, 0x8,
  0xE, 0x9, 0x17, 0x1D, 0x1, 0x15, 0x0, 0xD, 0x48, 0x6, 0x0, 0x1, 0x0, 0x2B, 0x2, 0x0, 0x0, 0x1,
  0x0, 0x8, 0x7, 0x9, 0x5, 0x5, 0x0, 0x1, 0x0, 0x24, 0x0, 0x1, 0x0, 0x5, 0x6, 0x9, 0x135, 0x16,
  0x8, 0x10, 0x0, 0x28, 0x2, 0x4, 0xC, 0xA, 0x54, 0x0, 0x4E, 0x399, 0x65, 0x6E, 0x10, 0xC3,
  0xA4B, 0x60, 0xE, 0x42F, 0xF, 0x15, 0x9, 0xF9A, 0x4, 0x246, 0x1AB8, 0x39, 0x6C5, 0x238, 0x6,
  0x1E, 0x0, 0x9, 0x5, 0x4E, 0x0, 0x9, 0x5, 0x1D, 0x1, 0x4, 0xA, 0x36, 0x8, 0x3, 0xB, 0x9, 0x8,
  0x14, 0x4, 0x12, 0x1AF, 0x2C, 0x2, 0x9, 0xC5, 0x3F, 0x7F, 0x4A, 0x3, 0x38, 0x6, 0x10, 0x3F,
  0x1, 0x0, 0x1, 0xA, 0x1, 0xD, 0x17F7, 0x7, 0x4D5, 0x28, 0x9, 0x22E6, 0x3, 0x0, 0x6, 0x0, 0x1,
  0x0, 0x122, 0xE, 0x0, 0x1C, 0x2, 0x1, 0x0, 0xD, 0x3, 0x7, 0x18B, 0x903, 0x6A, 0x4, 0xC, 0x2,
  0x8, 0x6, 0x9, 0x2, 0x1, 0x1050, 0x9, 0x205, 0x2D, 0x1, 0x16, 0x21D, 0x4, 0x2, 0x5, 0x7, 0x7,
  0x1, 0x6, 0x1D, 0x3, 0x93, 0x2, 0x1BA, 0x54, 0x0, 0x46, 0x0, 0x1, 0x1, 0x0, 0x1, 0x1, 0x1,
  0x3, 0x0, 0xB, 0x0, 0x0, 0x0, 0x6, 0x0, 0x40, 0x0, 0x3, 0x1, 0x7, 0x0, 0x6, 0x0, 0x1B, 0x0,
  0x3, 0x0, 0x4, 0x0, 0x0, 0x2, 0x6, 0x0, 0x153, 0x1, 0x18, 0x0, 0x18, 0x0, 0x1E, 0x0, 0x18,
  0x0, 0x1E, 0x0, 0x18, 0x0, 0x1E, 0x0, 0x18, 0x0, 0x1E, 0x0, 0x18, 0x0, 0x7, 0x1, 0x31, 0x1FF,
  0x36, 0x3, 0x31, 0x7, 0x0, 0xD, 0x0, 0x15, 0x4, 0x0, 0xE, 0x44F, 0x1E, 0x5, 0x5, 0xD4, 0x6,
  0x0, 0x10, 0x1, 0x6, 0x0, 0x1, 0x0, 0x4, 0x4, 0x3D, 0x20, 0x0, 0x6F, 0x2C, 0x2, 0xD, 0x1, 0x9,
  0x3, 0x0, 0x140, 0x1E, 0x10, 0x39, 0x1D5, 0x29, 0xD5, 0x2A, 0x1E4, 0x6, 0x0, 0x3, 0x0, 0x1,
  0x0, 0xE, 0x0, 0xC4, 0xA, 0x6, 0x28, 0x4B, 0x3, 0x9, 0x4A5, 0x3, 0x0, 0x1A, 0x0, 0x1, 0x0,
  0x0, 0x1, 0x0, 0x0, 0x9, 0x0, 0x3, 0x0, 0x0, 0x0, 0x0, 0x5, 0x0, 0x3, 0x0, 0x0, 0x0, 0x0, 0x0,
  0x0, 0x2, 0x0, 0x1, 0x0, 0x0, 0x1, 0x0, 0x0, 0x0, 0x0, 0x0, 0x0, 0x0, 0x0, 0x0, 0x0, 0x1, 0x0,
  0x0, 0x1, 0x3, 0x0, 0x6, 0x0, 0x3, 0x0, 0x3, 0x0, 0x0, 0x0, 0x9, 0x0, 0x10, 0x4, 0x2, 0x0,
  0x4, 0x0, 0x10, 0x273, 0x19, 0x5, 0x19, 0x5, 0x19, 0xA65, 0x9, 0x405, 0xA6DF, 0x1F, 0x1039,
  0x5, 0xDD, 0x1, 0x1681, 0xD, 0x1D30, 0xE, 0x26D, 0x9A1, 0x21D, 0x5E1, 0x134A, 0x4, 0x105F,
  0xADD4F, 0xEF]

end Deckwright.Unicode
