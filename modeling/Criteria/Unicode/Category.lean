import Criteria.Unicode.Runs
/-!
# General categories

Every code point has one general category. The table lists the runs of one
category in order, each as `32 · first point + index of the category`.
-/

namespace Criteria.Unicode

/-- The general category of a code point. -/
inductive Category
  | uppercaseLetter
  | lowercaseLetter
  | titlecaseLetter
  | modifierLetter
  | otherLetter
  | nonspacingMark
  | spacingMark
  | enclosingMark
  | decimalNumber
  | letterNumber
  | otherNumber
  | connectorPunctuation
  | dashPunctuation
  | openPunctuation
  | closePunctuation
  | initialPunctuation
  | finalPunctuation
  | otherPunctuation
  | mathSymbol
  | currencySymbol
  | modifierSymbol
  | otherSymbol
  | spaceSeparator
  | lineSeparator
  | paragraphSeparator
  | control
  | format
  | surrogate
  | privateUse
  | unassigned
deriving DecidableEq, Repr

namespace Category

/-- Every category, in the order of its index. -/
def all : List Category :=
  [.uppercaseLetter, .lowercaseLetter, .titlecaseLetter, .modifierLetter, .otherLetter,
   .nonspacingMark, .spacingMark, .enclosingMark, .decimalNumber, .letterNumber, .otherNumber,
   .connectorPunctuation, .dashPunctuation, .openPunctuation, .closePunctuation,
   .initialPunctuation, .finalPunctuation, .otherPunctuation, .mathSymbol, .currencySymbol,
   .modifierSymbol, .otherSymbol, .spaceSeparator, .lineSeparator, .paragraphSeparator, .control,
   .format, .surrogate, .privateUse, .unassigned]

set_option maxRecDepth 20000 in
/-- The runs of one category, in order. -/
def runs : List Nat :=
  [0x19, 0x416, 0x431, 0x493, 0x4B1, 0x50D, 0x52E, 0x551, 0x572, 0x591, 0x5AC, 0x5D1, 0x608,
   0x751, 0x792, 0x7F1, 0x820, 0xB6D, 0xB91, 0xBAE, 0xBD4, 0xBEB, 0xC14, 0xC21, 0xF6D, 0xF92,
   0xFAE, 0xFD2, 0xFF9, 0x1416, 0x1431, 0x1453, 0x14D5, 0x14F1, 0x1514, 0x1535, 0x1544, 0x156F,
   0x1592, 0x15BA, 0x15D5, 0x15F4, 0x1615, 0x1632, 0x164A, 0x1694, 0x16A1, 0x16D1, 0x1714, 0x172A,
   0x1744, 0x1770, 0x178A, 0x17F1, 0x1800, 0x1AF2, 0x1B00, 0x1BE1, 0x1EF2, 0x1F01, 0x2000, 0x2021,
   0x2040, 0x2061, 0x2080, 0x20A1, 0x20C0, 0x20E1, 0x2100, 0x2121, 0x2140, 0x2161, 0x2180, 0x21A1,
   0x21C0, 0x21E1, 0x2200, 0x2221, 0x2240, 0x2261, 0x2280, 0x22A1, 0x22C0, 0x22E1, 0x2300, 0x2321,
   0x2340, 0x2361, 0x2380, 0x23A1, 0x23C0, 0x23E1, 0x2400, 0x2421, 0x2440, 0x2461, 0x2480, 0x24A1,
   0x24C0, 0x24E1, 0x2500, 0x2521, 0x2540, 0x2561, 0x2580, 0x25A1, 0x25C0, 0x25E1, 0x2600, 0x2621,
   0x2640, 0x2661, 0x2680, 0x26A1, 0x26C0, 0x26E1, 0x2720, 0x2741, 0x2760, 0x2781, 0x27A0, 0x27C1,
   0x27E0, 0x2801, 0x2820, 0x2841, 0x2860, 0x2881, 0x28A0, 0x28C1, 0x28E0, 0x2901, 0x2940, 0x2961,
   0x2980, 0x29A1, 0x29C0, 0x29E1, 0x2A00, 0x2A21, 0x2A40, 0x2A61, 0x2A80, 0x2AA1, 0x2AC0, 0x2AE1,
   0x2B00, 0x2B21, 0x2B40, 0x2B61, 0x2B80, 0x2BA1, 0x2BC0, 0x2BE1, 0x2C00, 0x2C21, 0x2C40, 0x2C61,
   0x2C80, 0x2CA1, 0x2CC0, 0x2CE1, 0x2D00, 0x2D21, 0x2D40, 0x2D61, 0x2D80, 0x2DA1, 0x2DC0, 0x2DE1,
   0x2E00, 0x2E21, 0x2E40, 0x2E61, 0x2E80, 0x2EA1, 0x2EC0, 0x2EE1, 0x2F00, 0x2F41, 0x2F60, 0x2F81,
   0x2FA0, 0x2FC1, 0x3020, 0x3061, 0x3080, 0x30A1, 0x30C0, 0x3101, 0x3120, 0x3181, 0x31C0, 0x3241,
   0x3260, 0x32A1, 0x32C0, 0x3321, 0x3380, 0x33C1, 0x33E0, 0x3421, 0x3440, 0x3461, 0x3480, 0x34A1,
   0x34C0, 0x3501, 0x3520, 0x3541, 0x3580, 0x35A1, 0x35C0, 0x3601, 0x3620, 0x3681, 0x36A0, 0x36C1,
   0x36E0, 0x3721, 0x3764, 0x3780, 0x37A1, 0x3804, 0x3880, 0x38A2, 0x38C1, 0x38E0, 0x3902, 0x3921,
   0x3940, 0x3962, 0x3981, 0x39A0, 0x39C1, 0x39E0, 0x3A01, 0x3A20, 0x3A41, 0x3A60, 0x3A81, 0x3AA0,
   0x3AC1, 0x3AE0, 0x3B01, 0x3B20, 0x3B41, 0x3B60, 0x3B81, 0x3BC0, 0x3BE1, 0x3C00, 0x3C21, 0x3C40,
   0x3C61, 0x3C80, 0x3CA1, 0x3CC0, 0x3CE1, 0x3D00, 0x3D21, 0x3D40, 0x3D61, 0x3D80, 0x3DA1, 0x3DC0,
   0x3DE1, 0x3E20, 0x3E42, 0x3E61, 0x3E80, 0x3EA1, 0x3EC0, 0x3F21, 0x3F40, 0x3F61, 0x3F80, 0x3FA1,
   0x3FC0, 0x3FE1, 0x4000, 0x4021, 0x4040, 0x4061, 0x4080, 0x40A1, 0x40C0, 0x40E1, 0x4100, 0x4121,
   0x4140, 0x4161, 0x4180, 0x41A1, 0x41C0, 0x41E1, 0x4200, 0x4221, 0x4240, 0x4261, 0x4280, 0x42A1,
   0x42C0, 0x42E1, 0x4300, 0x4321, 0x4340, 0x4361, 0x4380, 0x43A1, 0x43C0, 0x43E1, 0x4400, 0x4421,
   0x4440, 0x4461, 0x4480, 0x44A1, 0x44C0, 0x44E1, 0x4500, 0x4521, 0x4540, 0x4561, 0x4580, 0x45A1,
   0x45C0, 0x45E1, 0x4600, 0x4621, 0x4640, 0x4661, 0x4740, 0x4781, 0x47A0, 0x47E1, 0x4820, 0x4841,
   0x4860, 0x48E1, 0x4900, 0x4921, 0x4940, 0x4961, 0x4980, 0x49A1, 0x49C0, 0x49E1, 0x5284, 0x52A1,
   0x5603, 0x5854, 0x58C3, 0x5A54, 0x5C03, 0x5CB4, 0x5D83, 0x5DB4, 0x5DC3, 0x5DF4, 0x6005, 0x6E00,
   0x6E21, 0x6E40, 0x6E61, 0x6E83, 0x6EB4, 0x6EC0, 0x6EE1, 0x6F1D, 0x6F43, 0x6F61, 0x6FD1, 0x6FE0,
   0x701D, 0x7094, 0x70C0, 0x70F1, 0x7100, 0x717D, 0x7180, 0x71BD, 0x71C0, 0x7201, 0x7220, 0x745D,
   0x7460, 0x7581, 0x79E0, 0x7A01, 0x7A40, 0x7AA1, 0x7B00, 0x7B21, 0x7B40, 0x7B61, 0x7B80, 0x7BA1,
   0x7BC0, 0x7BE1, 0x7C00, 0x7C21, 0x7C40, 0x7C61, 0x7C80, 0x7CA1, 0x7CC0, 0x7CE1, 0x7D00, 0x7D21,
   0x7D40, 0x7D61, 0x7D80, 0x7DA1, 0x7DC0, 0x7DE1, 0x7E80, 0x7EA1, 0x7ED2, 0x7EE0, 0x7F01, 0x7F20,
   0x7F61, 0x7FA0, 0x8601, 0x8C00, 0x8C21, 0x8C40, 0x8C61, 0x8C80, 0x8CA1, 0x8CC0, 0x8CE1, 0x8D00,
   0x8D21, 0x8D40, 0x8D61, 0x8D80, 0x8DA1, 0x8DC0, 0x8DE1, 0x8E00, 0x8E21, 0x8E40, 0x8E61, 0x8E80,
   0x8EA1, 0x8EC0, 0x8EE1, 0x8F00, 0x8F21, 0x8F40, 0x8F61, 0x8F80, 0x8FA1, 0x8FC0, 0x8FE1, 0x9000,
   0x9021, 0x9055, 0x9065, 0x9107, 0x9140, 0x9161, 0x9180, 0x91A1, 0x91C0, 0x91E1, 0x9200, 0x9221,
   0x9240, 0x9261, 0x9280, 0x92A1, 0x92C0, 0x92E1, 0x9300, 0x9321, 0x9340, 0x9361, 0x9380, 0x93A1,
   0x93C0, 0x93E1, 0x9400, 0x9421, 0x9440, 0x9461, 0x9480, 0x94A1, 0x94C0, 0x94E1, 0x9500, 0x9521,
   0x9540, 0x9561, 0x9580, 0x95A1, 0x95C0, 0x95E1, 0x9600, 0x9621, 0x9640, 0x9661, 0x9680, 0x96A1,
   0x96C0, 0x96E1, 0x9700, 0x9721, 0x9740, 0x9761, 0x9780, 0x97A1, 0x97C0, 0x97E1, 0x9800, 0x9841,
   0x9860, 0x9881, 0x98A0, 0x98C1, 0x98E0, 0x9901, 0x9920, 0x9941, 0x9960, 0x9981, 0x99A0, 0x99C1,
   0x9A00, 0x9A21, 0x9A40, 0x9A61, 0x9A80, 0x9AA1, 0x9AC0, 0x9AE1, 0x9B00, 0x9B21, 0x9B40, 0x9B61,
   0x9B80, 0x9BA1, 0x9BC0, 0x9BE1, 0x9C00, 0x9C21, 0x9C40, 0x9C61, 0x9C80, 0x9CA1, 0x9CC0, 0x9CE1,
   0x9D00, 0x9D21, 0x9D40, 0x9D61, 0x9D80, 0x9DA1, 0x9DC0, 0x9DE1, 0x9E00, 0x9E21, 0x9E40, 0x9E61,
   0x9E80, 0x9EA1, 0x9EC0, 0x9EE1, 0x9F00, 0x9F21, 0x9F40, 0x9F61, 0x9F80, 0x9FA1, 0x9FC0, 0x9FE1,
   0xA000, 0xA021, 0xA040, 0xA061, 0xA080, 0xA0A1, 0xA0C0, 0xA0E1, 0xA100, 0xA121, 0xA140, 0xA161,
   0xA180, 0xA1A1, 0xA1C0, 0xA1E1, 0xA200, 0xA221, 0xA240, 0xA261, 0xA280, 0xA2A1, 0xA2C0, 0xA2E1,
   0xA300, 0xA321, 0xA340, 0xA361, 0xA380, 0xA3A1, 0xA3C0, 0xA3E1, 0xA400, 0xA421, 0xA440, 0xA461,
   0xA480, 0xA4A1, 0xA4C0, 0xA4E1, 0xA500, 0xA521, 0xA540, 0xA561, 0xA580, 0xA5A1, 0xA5C0, 0xA5E1,
   0xA61D, 0xA620, 0xAAFD, 0xAB23, 0xAB51, 0xAC01, 0xB131, 0xB14C, 0xB17D, 0xB1B5, 0xB1F3, 0xB21D,
   0xB225, 0xB7CC, 0xB7E5, 0xB811, 0xB825, 0xB871, 0xB885, 0xB8D1, 0xB8E5, 0xB91D, 0xBA04, 0xBD7D,
   0xBDE4, 0xBE71, 0xBEBD, 0xC01A, 0xC0D2, 0xC131, 0xC173, 0xC191, 0xC1D5, 0xC205, 0xC371, 0xC39A,
   0xC3B1, 0xC404, 0xC803, 0xC824, 0xC965, 0xCC08, 0xCD51, 0xCDC4, 0xCE05, 0xCE24, 0xDA91, 0xDAA4,
   0xDAC5, 0xDBBA, 0xDBD5, 0xDBE5, 0xDCA3, 0xDCE5, 0xDD35, 0xDD45, 0xDDC4, 0xDE08, 0xDF44, 0xDFB5,
   0xDFE4, 0xE011, 0xE1DD, 0xE1FA, 0xE204, 0xE225, 0xE244, 0xE605, 0xE97D, 0xE9A4, 0xF4C5, 0xF624,
   0xF65D, 0xF808, 0xF944, 0xFD65, 0xFE83, 0xFED5, 0xFEF1, 0xFF43, 0xFF7D, 0xFFA5, 0xFFD3,
   0x10004, 0x102C5, 0x10343, 0x10365, 0x10483, 0x104A5, 0x10503, 0x10525, 0x105DD, 0x10611,
   0x107FD, 0x10804, 0x10B25, 0x10B9D, 0x10BD1, 0x10BFD, 0x10C04, 0x10D7D, 0x10E04, 0x11114,
   0x11124, 0x111FD, 0x1121A, 0x1125D, 0x11305, 0x11404, 0x11923, 0x11945, 0x11C5A, 0x11C65,
   0x12066, 0x12084, 0x12745, 0x12766, 0x12785, 0x127A4, 0x127C6, 0x12825, 0x12926, 0x129A5,
   0x129C6, 0x12A04, 0x12A25, 0x12B04, 0x12C45, 0x12C91, 0x12CC8, 0x12E11, 0x12E23, 0x12E44,
   0x13025, 0x13046, 0x1309D, 0x130A4, 0x131BD, 0x131E4, 0x1323D, 0x13264, 0x1353D, 0x13544,
   0x1363D, 0x13644, 0x1367D, 0x136C4, 0x1375D, 0x13785, 0x137A4, 0x137C6, 0x13825, 0x138BD,
   0x138E6, 0x1393D, 0x13966, 0x139A5, 0x139C4, 0x139FD, 0x13AE6, 0x13B1D, 0x13B84, 0x13BDD,
   0x13BE4, 0x13C45, 0x13C9D, 0x13CC8, 0x13E04, 0x13E53, 0x13E8A, 0x13F55, 0x13F73, 0x13F84,
   0x13FB1, 0x13FC5, 0x13FFD, 0x14025, 0x14066, 0x1409D, 0x140A4, 0x1417D, 0x141E4, 0x1423D,
   0x14264, 0x1453D, 0x14544, 0x1463D, 0x14644, 0x1469D, 0x146A4, 0x146FD, 0x14704, 0x1475D,
   0x14785, 0x147BD, 0x147C6, 0x14825, 0x1487D, 0x148E5, 0x1493D, 0x14965, 0x149DD, 0x14A25,
   0x14A5D, 0x14B24, 0x14BBD, 0x14BC4, 0x14BFD, 0x14CC8, 0x14E05, 0x14E44, 0x14EA5, 0x14ED1,
   0x14EFD, 0x15025, 0x15066, 0x1509D, 0x150A4, 0x151DD, 0x151E4, 0x1525D, 0x15264, 0x1553D,
   0x15544, 0x1563D, 0x15644, 0x1569D, 0x156A4, 0x1575D, 0x15785, 0x157A4, 0x157C6, 0x15825,
   0x158DD, 0x158E5, 0x15926, 0x1595D, 0x15966, 0x159A5, 0x159DD, 0x15A04, 0x15A3D, 0x15C04,
   0x15C45, 0x15C9D, 0x15CC8, 0x15E11, 0x15E33, 0x15E5D, 0x15F24, 0x15F45, 0x1601D, 0x16025,
   0x16046, 0x1609D, 0x160A4, 0x161BD, 0x161E4, 0x1623D, 0x16264, 0x1653D, 0x16544, 0x1663D,
   0x16644, 0x1669D, 0x166A4, 0x1675D, 0x16785, 0x167A4, 0x167C6, 0x167E5, 0x16806, 0x16825,
   0x168BD, 0x168E6, 0x1693D, 0x16966, 0x169A5, 0x169DD, 0x16AA5, 0x16AE6, 0x16B1D, 0x16B84,
   0x16BDD, 0x16BE4, 0x16C45, 0x16C9D, 0x16CC8, 0x16E15, 0x16E24, 0x16E4A, 0x16F1D, 0x17045,
   0x17064, 0x1709D, 0x170A4, 0x1717D, 0x171C4, 0x1723D, 0x17244, 0x172DD, 0x17324, 0x1737D,
   0x17384, 0x173BD, 0x173C4, 0x1741D, 0x17464, 0x174BD, 0x17504, 0x1757D, 0x175C4, 0x1775D,
   0x177C6, 0x17805, 0x17826, 0x1787D, 0x178C6, 0x1793D, 0x17946, 0x179A5, 0x179DD, 0x17A04,
   0x17A3D, 0x17AE6, 0x17B1D, 0x17CC8, 0x17E0A, 0x17E75, 0x17F33, 0x17F55, 0x17F7D, 0x18005,
   0x18026, 0x18085, 0x180A4, 0x181BD, 0x181C4, 0x1823D, 0x18244, 0x1853D, 0x18544, 0x1875D,
   0x18785, 0x187A4, 0x187C5, 0x18826, 0x188BD, 0x188C5, 0x1893D, 0x18945, 0x189DD, 0x18AA5,
   0x18AFD, 0x18B04, 0x18B7D, 0x18BA4, 0x18BDD, 0x18C04, 0x18C45, 0x18C9D, 0x18CC8, 0x18E1D,
   0x18EF1, 0x18F0A, 0x18FF5, 0x19004, 0x19025, 0x19046, 0x19091, 0x190A4, 0x191BD, 0x191C4,
   0x1923D, 0x19244, 0x1953D, 0x19544, 0x1969D, 0x196A4, 0x1975D, 0x19785, 0x197A4, 0x197C6,
   0x197E5, 0x19806, 0x198BD, 0x198C5, 0x198E6, 0x1993D, 0x19946, 0x19985, 0x199DD, 0x19AA6,
   0x19AFD, 0x19BA4, 0x19BFD, 0x19C04, 0x19C45, 0x19C9D, 0x19CC8, 0x19E1D, 0x19E24, 0x19E66,
   0x19E9D, 0x1A005, 0x1A046, 0x1A084, 0x1A1BD, 0x1A1C4, 0x1A23D, 0x1A244, 0x1A765, 0x1A7A4,
   0x1A7C6, 0x1A825, 0x1A8BD, 0x1A8C6, 0x1A93D, 0x1A946, 0x1A9A5, 0x1A9C4, 0x1A9F5, 0x1AA1D,
   0x1AA84, 0x1AAE6, 0x1AB0A, 0x1ABE4, 0x1AC45, 0x1AC9D, 0x1ACC8, 0x1AE0A, 0x1AF35, 0x1AF44,
   0x1B01D, 0x1B025, 0x1B046, 0x1B09D, 0x1B0A4, 0x1B2FD, 0x1B344, 0x1B65D, 0x1B664, 0x1B79D,
   0x1B7A4, 0x1B7DD, 0x1B804, 0x1B8FD, 0x1B945, 0x1B97D, 0x1B9E6, 0x1BA45, 0x1BABD, 0x1BAC5,
   0x1BAFD, 0x1BB06, 0x1BC1D, 0x1BCC8, 0x1BE1D, 0x1BE46, 0x1BE91, 0x1BEBD, 0x1C024, 0x1C625,
   0x1C644, 0x1C685, 0x1C77D, 0x1C7F3, 0x1C804, 0x1C8C3, 0x1C8E5, 0x1C9F1, 0x1CA08, 0x1CB51,
   0x1CB9D, 0x1D024, 0x1D07D, 0x1D084, 0x1D0BD, 0x1D0C4, 0x1D17D, 0x1D184, 0x1D49D, 0x1D4A4,
   0x1D4DD, 0x1D4E4, 0x1D625, 0x1D644, 0x1D685, 0x1D7A4, 0x1D7DD, 0x1D804, 0x1D8BD, 0x1D8C3,
   0x1D8FD, 0x1D905, 0x1D9FD, 0x1DA08, 0x1DB5D, 0x1DB84, 0x1DC1D, 0x1E004, 0x1E035, 0x1E091,
   0x1E275, 0x1E291, 0x1E2B5, 0x1E305, 0x1E355, 0x1E408, 0x1E54A, 0x1E695, 0x1E6A5, 0x1E6D5,
   0x1E6E5, 0x1E715, 0x1E725, 0x1E74D, 0x1E76E, 0x1E78D, 0x1E7AE, 0x1E7C6, 0x1E804, 0x1E91D,
   0x1E924, 0x1EDBD, 0x1EE25, 0x1EFE6, 0x1F005, 0x1F0B1, 0x1F0C5, 0x1F104, 0x1F1A5, 0x1F31D,
   0x1F325, 0x1F7BD, 0x1F7D5, 0x1F8C5, 0x1F8F5, 0x1F9BD, 0x1F9D5, 0x1FA11, 0x1FAB5, 0x1FB31,
   0x1FB7D, 0x20004, 0x20566, 0x205A5, 0x20626, 0x20645, 0x20706, 0x20725, 0x20766, 0x207A5,
   0x207E4, 0x20808, 0x20951, 0x20A04, 0x20AC6, 0x20B05, 0x20B44, 0x20BC5, 0x20C24, 0x20C46,
   0x20CA4, 0x20CE6, 0x20DC4, 0x20E25, 0x20EA4, 0x21045, 0x21066, 0x210A5, 0x210E6, 0x211A5,
   0x211C4, 0x211E6, 0x21208, 0x21346, 0x213A5, 0x213D5, 0x21400, 0x218DD, 0x218E0, 0x2191D,
   0x219A0, 0x219DD, 0x21A01, 0x21F71, 0x21F83, 0x21FA1, 0x22004, 0x2493D, 0x24944, 0x249DD,
   0x24A04, 0x24AFD, 0x24B04, 0x24B3D, 0x24B44, 0x24BDD, 0x24C04, 0x2513D, 0x25144, 0x251DD,
   0x25204, 0x2563D, 0x25644, 0x256DD, 0x25704, 0x257FD, 0x25804, 0x2583D, 0x25844, 0x258DD,
   0x25904, 0x25AFD, 0x25B04, 0x2623D, 0x26244, 0x262DD, 0x26304, 0x26B7D, 0x26BA5, 0x26C11,
   0x26D2A, 0x26FBD, 0x27004, 0x27215, 0x2735D, 0x27400, 0x27EDD, 0x27F01, 0x27FDD, 0x2800C,
   0x28024, 0x2CDB5, 0x2CDD1, 0x2CDE4, 0x2D016, 0x2D024, 0x2D36D, 0x2D38E, 0x2D3BD, 0x2D404,
   0x2DD71, 0x2DDC9, 0x2DE24, 0x2DF3D, 0x2E004, 0x2E245, 0x2E2A6, 0x2E2DD, 0x2E3E4, 0x2E645,
   0x2E686, 0x2E6B1, 0x2E6FD, 0x2E804, 0x2EA45, 0x2EA9D, 0x2EC04, 0x2EDBD, 0x2EDC4, 0x2EE3D,
   0x2EE45, 0x2EE9D, 0x2F004, 0x2F685, 0x2F6C6, 0x2F6E5, 0x2F7C6, 0x2F8C5, 0x2F8E6, 0x2F925,
   0x2FA91, 0x2FAE3, 0x2FB11, 0x2FB73, 0x2FB84, 0x2FBA5, 0x2FBDD, 0x2FC08, 0x2FD5D, 0x2FE0A,
   0x2FF5D, 0x30011, 0x300CC, 0x300F1, 0x30165, 0x301DA, 0x301E5, 0x30208, 0x3035D, 0x30404,
   0x30863, 0x30884, 0x30F3D, 0x31004, 0x310A5, 0x310E4, 0x31525, 0x31544, 0x3157D, 0x31604,
   0x31EDD, 0x32004, 0x323FD, 0x32405, 0x32466, 0x324E5, 0x32526, 0x3259D, 0x32606, 0x32645,
   0x32666, 0x32725, 0x3279D, 0x32815, 0x3283D, 0x32891, 0x328C8, 0x32A04, 0x32DDD, 0x32E04,
   0x32EBD, 0x33004, 0x3359D, 0x33604, 0x3395D, 0x33A08, 0x33B4A, 0x33B7D, 0x33BD5, 0x34004,
   0x342E5, 0x34326, 0x34365, 0x3439D, 0x343D1, 0x34404, 0x34AA6, 0x34AC5, 0x34AE6, 0x34B05,
   0x34BFD, 0x34C05, 0x34C26, 0x34C45, 0x34C66, 0x34CA5, 0x34DA6, 0x34E65, 0x34FBD, 0x34FE5,
   0x35008, 0x3515D, 0x35208, 0x3535D, 0x35411, 0x354E3, 0x35511, 0x355DD, 0x35605, 0x357C7,
   0x357E5, 0x359FD, 0x36005, 0x36086, 0x360A4, 0x36685, 0x366A6, 0x366C5, 0x36766, 0x36785,
   0x367A6, 0x36845, 0x36866, 0x368A4, 0x369BD, 0x36A08, 0x36B51, 0x36C35, 0x36D65, 0x36E95,
   0x36FB1, 0x36FFD, 0x37005, 0x37046, 0x37064, 0x37426, 0x37445, 0x374C6, 0x37505, 0x37546,
   0x37565, 0x375C4, 0x37608, 0x37744, 0x37CC5, 0x37CE6, 0x37D05, 0x37D46, 0x37DA5, 0x37DC6,
   0x37DE5, 0x37E46, 0x37E9D, 0x37F91, 0x38004, 0x38486, 0x38585, 0x38686, 0x386C5, 0x3871D,
   0x38771, 0x38808, 0x3895D, 0x389A4, 0x38A08, 0x38B44, 0x38F03, 0x38FD1, 0x39001, 0x3913D,
   0x39200, 0x3977D, 0x397A0, 0x39811, 0x3991D, 0x39A05, 0x39A71, 0x39A85, 0x39C26, 0x39C45,
   0x39D24, 0x39DA5, 0x39DC4, 0x39E85, 0x39EA4, 0x39EE6, 0x39F05, 0x39F44, 0x39F7D, 0x3A001,
   0x3A583, 0x3AD61, 0x3AF03, 0x3AF21, 0x3B363, 0x3B805, 0x3C000, 0x3C021, 0x3C040, 0x3C061,
   0x3C080, 0x3C0A1, 0x3C0C0, 0x3C0E1, 0x3C100, 0x3C121, 0x3C140, 0x3C161, 0x3C180, 0x3C1A1,
   0x3C1C0, 0x3C1E1, 0x3C200, 0x3C221, 0x3C240, 0x3C261, 0x3C280, 0x3C2A1, 0x3C2C0, 0x3C2E1,
   0x3C300, 0x3C321, 0x3C340, 0x3C361, 0x3C380, 0x3C3A1, 0x3C3C0, 0x3C3E1, 0x3C400, 0x3C421,
   0x3C440, 0x3C461, 0x3C480, 0x3C4A1, 0x3C4C0, 0x3C4E1, 0x3C500, 0x3C521, 0x3C540, 0x3C561,
   0x3C580, 0x3C5A1, 0x3C5C0, 0x3C5E1, 0x3C600, 0x3C621, 0x3C640, 0x3C661, 0x3C680, 0x3C6A1,
   0x3C6C0, 0x3C6E1, 0x3C700, 0x3C721, 0x3C740, 0x3C761, 0x3C780, 0x3C7A1, 0x3C7C0, 0x3C7E1,
   0x3C800, 0x3C821, 0x3C840, 0x3C861, 0x3C880, 0x3C8A1, 0x3C8C0, 0x3C8E1, 0x3C900, 0x3C921,
   0x3C940, 0x3C961, 0x3C980, 0x3C9A1, 0x3C9C0, 0x3C9E1, 0x3CA00, 0x3CA21, 0x3CA40, 0x3CA61,
   0x3CA80, 0x3CAA1, 0x3CAC0, 0x3CAE1, 0x3CB00, 0x3CB21, 0x3CB40, 0x3CB61, 0x3CB80, 0x3CBA1,
   0x3CBC0, 0x3CBE1, 0x3CC00, 0x3CC21, 0x3CC40, 0x3CC61, 0x3CC80, 0x3CCA1, 0x3CCC0, 0x3CCE1,
   0x3CD00, 0x3CD21, 0x3CD40, 0x3CD61, 0x3CD80, 0x3CDA1, 0x3CDC0, 0x3CDE1, 0x3CE00, 0x3CE21,
   0x3CE40, 0x3CE61, 0x3CE80, 0x3CEA1, 0x3CEC0, 0x3CEE1, 0x3CF00, 0x3CF21, 0x3CF40, 0x3CF61,
   0x3CF80, 0x3CFA1, 0x3CFC0, 0x3CFE1, 0x3D000, 0x3D021, 0x3D040, 0x3D061, 0x3D080, 0x3D0A1,
   0x3D0C0, 0x3D0E1, 0x3D100, 0x3D121, 0x3D140, 0x3D161, 0x3D180, 0x3D1A1, 0x3D1C0, 0x3D1E1,
   0x3D200, 0x3D221, 0x3D240, 0x3D261, 0x3D280, 0x3D2A1, 0x3D3C0, 0x3D3E1, 0x3D400, 0x3D421,
   0x3D440, 0x3D461, 0x3D480, 0x3D4A1, 0x3D4C0, 0x3D4E1, 0x3D500, 0x3D521, 0x3D540, 0x3D561,
   0x3D580, 0x3D5A1, 0x3D5C0, 0x3D5E1, 0x3D600, 0x3D621, 0x3D640, 0x3D661, 0x3D680, 0x3D6A1,
   0x3D6C0, 0x3D6E1, 0x3D700, 0x3D721, 0x3D740, 0x3D761, 0x3D780, 0x3D7A1, 0x3D7C0, 0x3D7E1,
   0x3D800, 0x3D821, 0x3D840, 0x3D861, 0x3D880, 0x3D8A1, 0x3D8C0, 0x3D8E1, 0x3D900, 0x3D921,
   0x3D940, 0x3D961, 0x3D980, 0x3D9A1, 0x3D9C0, 0x3D9E1, 0x3DA00, 0x3DA21, 0x3DA40, 0x3DA61,
   0x3DA80, 0x3DAA1, 0x3DAC0, 0x3DAE1, 0x3DB00, 0x3DB21, 0x3DB40, 0x3DB61, 0x3DB80, 0x3DBA1,
   0x3DBC0, 0x3DBE1, 0x3DC00, 0x3DC21, 0x3DC40, 0x3DC61, 0x3DC80, 0x3DCA1, 0x3DCC0, 0x3DCE1,
   0x3DD00, 0x3DD21, 0x3DD40, 0x3DD61, 0x3DD80, 0x3DDA1, 0x3DDC0, 0x3DDE1, 0x3DE00, 0x3DE21,
   0x3DE40, 0x3DE61, 0x3DE80, 0x3DEA1, 0x3DEC0, 0x3DEE1, 0x3DF00, 0x3DF21, 0x3DF40, 0x3DF61,
   0x3DF80, 0x3DFA1, 0x3DFC0, 0x3DFE1, 0x3E100, 0x3E201, 0x3E2DD, 0x3E300, 0x3E3DD, 0x3E401,
   0x3E500, 0x3E601, 0x3E700, 0x3E801, 0x3E8DD, 0x3E900, 0x3E9DD, 0x3EA01, 0x3EB1D, 0x3EB20,
   0x3EB5D, 0x3EB60, 0x3EB9D, 0x3EBA0, 0x3EBDD, 0x3EBE0, 0x3EC01, 0x3ED00, 0x3EE01, 0x3EFDD,
   0x3F001, 0x3F102, 0x3F201, 0x3F302, 0x3F401, 0x3F502, 0x3F601, 0x3F6BD, 0x3F6C1, 0x3F700,
   0x3F782, 0x3F7B4, 0x3F7C1, 0x3F7F4, 0x3F841, 0x3F8BD, 0x3F8C1, 0x3F900, 0x3F982, 0x3F9B4,
   0x3FA01, 0x3FA9D, 0x3FAC1, 0x3FB00, 0x3FB9D, 0x3FBB4, 0x3FC01, 0x3FD00, 0x3FDB4, 0x3FE1D,
   0x3FE41, 0x3FEBD, 0x3FEC1, 0x3FF00, 0x3FF82, 0x3FFB4, 0x3FFFD, 0x40016, 0x4017A, 0x4020C,
   0x402D1, 0x4030F, 0x40330, 0x4034D, 0x4036F, 0x403B0, 0x403CD, 0x403EF, 0x40411, 0x40517,
   0x40538, 0x4055A, 0x405F6, 0x40611, 0x4072F, 0x40750, 0x40771, 0x407EB, 0x40831, 0x40892,
   0x408AD, 0x408CE, 0x408F1, 0x40A52, 0x40A71, 0x40A8B, 0x40AB1, 0x40BF6, 0x40C1A, 0x40CBD,
   0x40CDA, 0x40E0A, 0x40E23, 0x40E5D, 0x40E8A, 0x40F52, 0x40FAD, 0x40FCE, 0x40FE3, 0x4100A,
   0x41152, 0x411AD, 0x411CE, 0x411FD, 0x41203, 0x413BD, 0x41413, 0x4183D, 0x41A05, 0x41BA7,
   0x41C25, 0x41C47, 0x41CA5, 0x41E3D, 0x42015, 0x42040, 0x42075, 0x420E0, 0x42115, 0x42141,
   0x42160, 0x421C1, 0x42200, 0x42261, 0x42295, 0x422A0, 0x422D5, 0x42312, 0x42320, 0x423D5,
   0x42480, 0x424B5, 0x424C0, 0x424F5, 0x42500, 0x42535, 0x42540, 0x425D5, 0x425E1, 0x42600,
   0x42681, 0x426A4, 0x42721, 0x42755, 0x42781, 0x427C0, 0x42812, 0x428A0, 0x428C1, 0x42955,
   0x42972, 0x42995, 0x429C1, 0x429F5, 0x42A0A, 0x42C09, 0x43060, 0x43081, 0x430A9, 0x4312A,
   0x43155, 0x4319D, 0x43212, 0x432B5, 0x43352, 0x43395, 0x43412, 0x43435, 0x43472, 0x43495,
   0x434D2, 0x434F5, 0x435D2, 0x435F5, 0x439D2, 0x43A15, 0x43A52, 0x43A75, 0x43A92, 0x43AB5,
   0x43E92, 0x46015, 0x4610D, 0x4612E, 0x4614D, 0x4616E, 0x46195, 0x46412, 0x46455, 0x4652D,
   0x4654E, 0x46575, 0x46F92, 0x46FB5, 0x47372, 0x47695, 0x47B92, 0x47C55, 0x484FD, 0x48815,
   0x4897D, 0x48C0A, 0x49395, 0x49D4A, 0x4A015, 0x4B6F2, 0x4B715, 0x4B832, 0x4B855, 0x4BF12,
   0x4C015, 0x4CDF2, 0x4CE15, 0x4ED0D, 0x4ED2E, 0x4ED4D, 0x4ED6E, 0x4ED8D, 0x4EDAE, 0x4EDCD,
   0x4EDEE, 0x4EE0D, 0x4EE2E, 0x4EE4D, 0x4EE6E, 0x4EE8D, 0x4EEAE, 0x4EECA, 0x4F295, 0x4F812,
   0x4F8AD, 0x4F8CE, 0x4F8F2, 0x4FCCD, 0x4FCEE, 0x4FD0D, 0x4FD2E, 0x4FD4D, 0x4FD6E, 0x4FD8D,
   0x4FDAE, 0x4FDCD, 0x4FDEE, 0x4FE12, 0x50015, 0x52012, 0x5306D, 0x5308E, 0x530AD, 0x530CE,
   0x530ED, 0x5310E, 0x5312D, 0x5314E, 0x5316D, 0x5318E, 0x531AD, 0x531CE, 0x531ED, 0x5320E,
   0x5322D, 0x5324E, 0x5326D, 0x5328E, 0x532AD, 0x532CE, 0x532ED, 0x5330E, 0x53332, 0x53B0D,
   0x53B2E, 0x53B4D, 0x53B6E, 0x53B92, 0x53F8D, 0x53FAE, 0x53FD2, 0x56015, 0x56612, 0x568B5,
   0x568F2, 0x569B5, 0x56E9D, 0x56ED5, 0x572DD, 0x572F5, 0x58000, 0x58601, 0x58C00, 0x58C21,
   0x58C40, 0x58CA1, 0x58CE0, 0x58D01, 0x58D20, 0x58D41, 0x58D60, 0x58D81, 0x58DA0, 0x58E21,
   0x58E40, 0x58E61, 0x58EA0, 0x58EC1, 0x58F83, 0x58FC0, 0x59021, 0x59040, 0x59061, 0x59080,
   0x590A1, 0x590C0, 0x590E1, 0x59100, 0x59121, 0x59140, 0x59161, 0x59180, 0x591A1, 0x591C0,
   0x591E1, 0x59200, 0x59221, 0x59240, 0x59261, 0x59280, 0x592A1, 0x592C0, 0x592E1, 0x59300,
   0x59321, 0x59340, 0x59361, 0x59380, 0x593A1, 0x593C0, 0x593E1, 0x59400, 0x59421, 0x59440,
   0x59461, 0x59480, 0x594A1, 0x594C0, 0x594E1, 0x59500, 0x59521, 0x59540, 0x59561, 0x59580,
   0x595A1, 0x595C0, 0x595E1, 0x59600, 0x59621, 0x59640, 0x59661, 0x59680, 0x596A1, 0x596C0,
   0x596E1, 0x59700, 0x59721, 0x59740, 0x59761, 0x59780, 0x597A1, 0x597C0, 0x597E1, 0x59800,
   0x59821, 0x59840, 0x59861, 0x59880, 0x598A1, 0x598C0, 0x598E1, 0x59900, 0x59921, 0x59940,
   0x59961, 0x59980, 0x599A1, 0x599C0, 0x599E1, 0x59A00, 0x59A21, 0x59A40, 0x59A61, 0x59A80,
   0x59AA1, 0x59AC0, 0x59AE1, 0x59B00, 0x59B21, 0x59B40, 0x59B61, 0x59B80, 0x59BA1, 0x59BC0,
   0x59BE1, 0x59C00, 0x59C21, 0x59C40, 0x59C61, 0x59CB5, 0x59D60, 0x59D81, 0x59DA0, 0x59DC1,
   0x59DE5, 0x59E40, 0x59E61, 0x59E9D, 0x59F31, 0x59FAA, 0x59FD1, 0x5A001, 0x5A4DD, 0x5A4E1,
   0x5A51D, 0x5A5A1, 0x5A5DD, 0x5A604, 0x5AD1D, 0x5ADE3, 0x5AE11, 0x5AE3D, 0x5AFE5, 0x5B004,
   0x5B2FD, 0x5B404, 0x5B4FD, 0x5B504, 0x5B5FD, 0x5B604, 0x5B6FD, 0x5B704, 0x5B7FD, 0x5B804,
   0x5B8FD, 0x5B904, 0x5B9FD, 0x5BA04, 0x5BAFD, 0x5BB04, 0x5BBFD, 0x5BC05, 0x5C011, 0x5C04F,
   0x5C070, 0x5C08F, 0x5C0B0, 0x5C0D1, 0x5C12F, 0x5C150, 0x5C171, 0x5C18F, 0x5C1B0, 0x5C1D1,
   0x5C2EC, 0x5C311, 0x5C34C, 0x5C371, 0x5C38F, 0x5C3B0, 0x5C3D1, 0x5C40F, 0x5C430, 0x5C44D,
   0x5C46E, 0x5C48D, 0x5C4AE, 0x5C4CD, 0x5C4EE, 0x5C50D, 0x5C52E, 0x5C551, 0x5C5E3, 0x5C611,
   0x5C74C, 0x5C791, 0x5C80C, 0x5C831, 0x5C84D, 0x5C871, 0x5CA15, 0x5CA51, 0x5CAAD, 0x5CACE,
   0x5CAED, 0x5CB0E, 0x5CB2D, 0x5CB4E, 0x5CB6D, 0x5CB8E, 0x5CBAC, 0x5CBDD, 0x5D015, 0x5D35D,
   0x5D375, 0x5DE9D, 0x5E015, 0x5FADD, 0x5FE15, 0x5FF9D, 0x60016, 0x60031, 0x60095, 0x600A3,
   0x600C4, 0x600E9, 0x6010D, 0x6012E, 0x6014D, 0x6016E, 0x6018D, 0x601AE, 0x601CD, 0x601EE,
   0x6020D, 0x6022E, 0x60255, 0x6028D, 0x602AE, 0x602CD, 0x602EE, 0x6030D, 0x6032E, 0x6034D,
   0x6036E, 0x6038C, 0x603AD, 0x603CE, 0x60415, 0x60429, 0x60545, 0x605C6, 0x6060C, 0x60623,
   0x606D5, 0x60709, 0x60763, 0x60784, 0x607B1, 0x607D5, 0x6081D, 0x60824, 0x612FD, 0x61325,
   0x61374, 0x613A3, 0x613E4, 0x6140C, 0x61424, 0x61F71, 0x61F83, 0x61FE4, 0x6201D, 0x620A4,
   0x6261D, 0x62624, 0x631FD, 0x63215, 0x6324A, 0x632D5, 0x63404, 0x63815, 0x63C9D, 0x63E04,
   0x64015, 0x643FD, 0x6440A, 0x64555, 0x6490A, 0x64A15, 0x64A2A, 0x64C15, 0x6500A, 0x65155,
   0x6562A, 0x65815, 0x68004, 0x9B815, 0x9C004, 0x1402A3, 0x1402C4, 0x1491BD, 0x149215, 0x1498FD,
   0x149A04, 0x149F03, 0x149FD1, 0x14A004, 0x14C183, 0x14C1B1, 0x14C204, 0x14C408, 0x14C544,
   0x14C59D, 0x14C800, 0x14C821, 0x14C840, 0x14C861, 0x14C880, 0x14C8A1, 0x14C8C0, 0x14C8E1,
   0x14C900, 0x14C921, 0x14C940, 0x14C961, 0x14C980, 0x14C9A1, 0x14C9C0, 0x14C9E1, 0x14CA00,
   0x14CA21, 0x14CA40, 0x14CA61, 0x14CA80, 0x14CAA1, 0x14CAC0, 0x14CAE1, 0x14CB00, 0x14CB21,
   0x14CB40, 0x14CB61, 0x14CB80, 0x14CBA1, 0x14CBC0, 0x14CBE1, 0x14CC00, 0x14CC21, 0x14CC40,
   0x14CC61, 0x14CC80, 0x14CCA1, 0x14CCC0, 0x14CCE1, 0x14CD00, 0x14CD21, 0x14CD40, 0x14CD61,
   0x14CD80, 0x14CDA1, 0x14CDC4, 0x14CDE5, 0x14CE07, 0x14CE71, 0x14CE85, 0x14CFD1, 0x14CFE3,
   0x14D000, 0x14D021, 0x14D040, 0x14D061, 0x14D080, 0x14D0A1, 0x14D0C0, 0x14D0E1, 0x14D100,
   0x14D121, 0x14D140, 0x14D161, 0x14D180, 0x14D1A1, 0x14D1C0, 0x14D1E1, 0x14D200, 0x14D221,
   0x14D240, 0x14D261, 0x14D280, 0x14D2A1, 0x14D2C0, 0x14D2E1, 0x14D300, 0x14D321, 0x14D340,
   0x14D361, 0x14D383, 0x14D3C5, 0x14D404, 0x14DCC9, 0x14DE05, 0x14DE51, 0x14DF1D, 0x14E014,
   0x14E2E3, 0x14E414, 0x14E440, 0x14E461, 0x14E480, 0x14E4A1, 0x14E4C0, 0x14E4E1, 0x14E500,
   0x14E521, 0x14E540, 0x14E561, 0x14E580, 0x14E5A1, 0x14E5C0, 0x14E5E1, 0x14E640, 0x14E661,
   0x14E680, 0x14E6A1, 0x14E6C0, 0x14E6E1, 0x14E700, 0x14E721, 0x14E740, 0x14E761, 0x14E780,
   0x14E7A1, 0x14E7C0, 0x14E7E1, 0x14E800, 0x14E821, 0x14E840, 0x14E861, 0x14E880, 0x14E8A1,
   0x14E8C0, 0x14E8E1, 0x14E900, 0x14E921, 0x14E940, 0x14E961, 0x14E980, 0x14E9A1, 0x14E9C0,
   0x14E9E1, 0x14EA00, 0x14EA21, 0x14EA40, 0x14EA61, 0x14EA80, 0x14EAA1, 0x14EAC0, 0x14EAE1,
   0x14EB00, 0x14EB21, 0x14EB40, 0x14EB61, 0x14EB80, 0x14EBA1, 0x14EBC0, 0x14EBE1, 0x14EC00,
   0x14EC21, 0x14EC40, 0x14EC61, 0x14EC80, 0x14ECA1, 0x14ECC0, 0x14ECE1, 0x14ED00, 0x14ED21,
   0x14ED40, 0x14ED61, 0x14ED80, 0x14EDA1, 0x14EDC0, 0x14EDE1, 0x14EE03, 0x14EE21, 0x14EF20,
   0x14EF41, 0x14EF60, 0x14EF81, 0x14EFA0, 0x14EFE1, 0x14F000, 0x14F021, 0x14F040, 0x14F061,
   0x14F080, 0x14F0A1, 0x14F0C0, 0x14F0E1, 0x14F103, 0x14F134, 0x14F160, 0x14F181, 0x14F1A0,
   0x14F1C1, 0x14F1E4, 0x14F200, 0x14F221, 0x14F240, 0x14F261, 0x14F2C0, 0x14F2E1, 0x14F300,
   0x14F321, 0x14F340, 0x14F361, 0x14F380, 0x14F3A1, 0x14F3C0, 0x14F3E1, 0x14F400, 0x14F421,
   0x14F440, 0x14F461, 0x14F480, 0x14F4A1, 0x14F4C0, 0x14F4E1, 0x14F500, 0x14F521, 0x14F540,
   0x14F5E1, 0x14F600, 0x14F6A1, 0x14F6C0, 0x14F6E1, 0x14F700, 0x14F721, 0x14F740, 0x14F761,
   0x14F780, 0x14F7A1, 0x14F7C0, 0x14F7E1, 0x14F800, 0x14F821, 0x14F840, 0x14F861, 0x14F880,
   0x14F901, 0x14F920, 0x14F941, 0x14F97D, 0x14FA00, 0x14FA21, 0x14FA5D, 0x14FA61, 0x14FA9D,
   0x14FAA1, 0x14FAC0, 0x14FAE1, 0x14FB00, 0x14FB21, 0x14FB5D, 0x14FE43, 0x14FEA0, 0x14FEC1,
   0x14FEE4, 0x14FF03, 0x14FF41, 0x14FF64, 0x150045, 0x150064, 0x1500C5, 0x1500E4, 0x150165,
   0x150184, 0x150466, 0x1504A5, 0x1504E6, 0x150515, 0x150585, 0x1505BD, 0x15060A, 0x1506D5,
   0x150713, 0x150735, 0x15075D, 0x150804, 0x150E91, 0x150F1D, 0x151006, 0x151044, 0x151686,
   0x151885, 0x1518DD, 0x1519D1, 0x151A08, 0x151B5D, 0x151C05, 0x151E44, 0x151F11, 0x151F64,
   0x151F91, 0x151FA4, 0x151FE5, 0x152008, 0x152144, 0x1524C5, 0x1525D1, 0x152604, 0x1528E5,
   0x152A46, 0x152A9D, 0x152BF1, 0x152C04, 0x152FBD, 0x153005, 0x153066, 0x153084, 0x153665,
   0x153686, 0x1536C5, 0x153746, 0x153785, 0x1537C6, 0x153831, 0x1539DD, 0x1539E3, 0x153A08,
   0x153B5D, 0x153BD1, 0x153C04, 0x153CA5, 0x153CC3, 0x153CE4, 0x153E08, 0x153F44, 0x153FFD,
   0x154004, 0x154525, 0x1545E6, 0x154625, 0x154666, 0x1546A5, 0x1546FD, 0x154804, 0x154865,
   0x154884, 0x154985, 0x1549A6, 0x1549DD, 0x154A08, 0x154B5D, 0x154B91, 0x154C04, 0x154E03,
   0x154E24, 0x154EF5, 0x154F44, 0x154F66, 0x154F85, 0x154FA6, 0x154FC4, 0x155605, 0x155624,
   0x155645, 0x1556A4, 0x1556E5, 0x155724, 0x1557C5, 0x155804, 0x155825, 0x155844, 0x15587D,
   0x155B64, 0x155BA3, 0x155BD1, 0x155C04, 0x155D66, 0x155D85, 0x155DC6, 0x155E11, 0x155E44,
   0x155E63, 0x155EA6, 0x155EC5, 0x155EFD, 0x156024, 0x1560FD, 0x156124, 0x1561FD, 0x156224,
   0x1562FD, 0x156404, 0x1564FD, 0x156504, 0x1565FD, 0x156601, 0x156B74, 0x156B83, 0x156C01,
   0x156D23, 0x156D54, 0x156D9D, 0x156E01, 0x157804, 0x157C66, 0x157CA5, 0x157CC6, 0x157D05,
   0x157D26, 0x157D71, 0x157D86, 0x157DA5, 0x157DDD, 0x157E08, 0x157F5D, 0x158004, 0x1AF49D,
   0x1AF604, 0x1AF8FD, 0x1AF964, 0x1AFF9D, 0x1B001B, 0x1C001C, 0x1F2004, 0x1F4DDD, 0x1F4E04,
   0x1F5B5D, 0x1F6001, 0x1F60FD, 0x1F6261, 0x1F631D, 0x1F63A4, 0x1F63C5, 0x1F63E4, 0x1F6532,
   0x1F6544, 0x1F66FD, 0x1F6704, 0x1F67BD, 0x1F67C4, 0x1F67FD, 0x1F6804, 0x1F685D, 0x1F6864,
   0x1F68BD, 0x1F68C4, 0x1F7654, 0x1F787D, 0x1F7A64, 0x1FA7CE, 0x1FA7ED, 0x1FA815, 0x1FAA04,
   0x1FB21D, 0x1FB244, 0x1FB91D, 0x1FB9F5, 0x1FBA1D, 0x1FBE04, 0x1FBF93, 0x1FBFB5, 0x1FC005,
   0x1FC211, 0x1FC2ED, 0x1FC30E, 0x1FC331, 0x1FC35D, 0x1FC405, 0x1FC611, 0x1FC62C, 0x1FC66B,
   0x1FC6AD, 0x1FC6CE, 0x1FC6ED, 0x1FC70E, 0x1FC72D, 0x1FC74E, 0x1FC76D, 0x1FC78E, 0x1FC7AD,
   0x1FC7CE, 0x1FC7ED, 0x1FC80E, 0x1FC82D, 0x1FC84E, 0x1FC86D, 0x1FC88E, 0x1FC8B1, 0x1FC8ED,
   0x1FC90E, 0x1FC931, 0x1FC9AB, 0x1FCA11, 0x1FCA7D, 0x1FCA91, 0x1FCB0C, 0x1FCB2D, 0x1FCB4E,
   0x1FCB6D, 0x1FCB8E, 0x1FCBAD, 0x1FCBCE, 0x1FCBF1, 0x1FCC52, 0x1FCC6C, 0x1FCC92, 0x1FCCFD,
   0x1FCD11, 0x1FCD33, 0x1FCD51, 0x1FCD9D, 0x1FCE04, 0x1FCEBD, 0x1FCEC4, 0x1FDFBD, 0x1FDFFA,
   0x1FE01D, 0x1FE031, 0x1FE093, 0x1FE0B1, 0x1FE10D, 0x1FE12E, 0x1FE151, 0x1FE172, 0x1FE191,
   0x1FE1AC, 0x1FE1D1, 0x1FE208, 0x1FE351, 0x1FE392, 0x1FE3F1, 0x1FE420, 0x1FE76D, 0x1FE791,
   0x1FE7AE, 0x1FE7D4, 0x1FE7EB, 0x1FE814, 0x1FE821, 0x1FEB6D, 0x1FEB92, 0x1FEBAE, 0x1FEBD2,
   0x1FEBED, 0x1FEC0E, 0x1FEC31, 0x1FEC4D, 0x1FEC6E, 0x1FEC91, 0x1FECC4, 0x1FEE03, 0x1FEE24,
   0x1FF3C3, 0x1FF404, 0x1FF7FD, 0x1FF844, 0x1FF91D, 0x1FF944, 0x1FFA1D, 0x1FFA44, 0x1FFB1D,
   0x1FFB44, 0x1FFBBD, 0x1FFC13, 0x1FFC52, 0x1FFC74, 0x1FFC95, 0x1FFCB3, 0x1FFCFD, 0x1FFD15,
   0x1FFD32, 0x1FFDB5, 0x1FFDFD, 0x1FFF3A, 0x1FFF95, 0x1FFFDD, 0x200004, 0x20019D, 0x2001A4,
   0x2004FD, 0x200504, 0x20077D, 0x200784, 0x2007DD, 0x2007E4, 0x2009DD, 0x200A04, 0x200BDD,
   0x201004, 0x201F7D, 0x202011, 0x20207D, 0x2020EA, 0x20269D, 0x2026F5, 0x202809, 0x202EAA,
   0x202F35, 0x20314A, 0x203195, 0x2031FD, 0x203215, 0x2033BD, 0x203415, 0x20343D, 0x203A15,
   0x203FA5, 0x203FDD, 0x205004, 0x2053BD, 0x205404, 0x205A3D, 0x205C05, 0x205C2A, 0x205F9D,
   0x206004, 0x20640A, 0x20649D, 0x2065A4, 0x206829, 0x206844, 0x206949, 0x20697D, 0x206A04,
   0x206EC5, 0x206F7D, 0x207004, 0x2073DD, 0x2073F1, 0x207404, 0x20789D, 0x207904, 0x207A11,
   0x207A29, 0x207ADD, 0x208000, 0x208501, 0x208A04, 0x2093DD, 0x209408, 0x20955D, 0x209600,
   0x209A9D, 0x209B01, 0x209F9D, 0x20A004, 0x20A51D, 0x20A604, 0x20AC9D, 0x20ADF1, 0x20AE00,
   0x20AF7D, 0x20AF80, 0x20B17D, 0x20B180, 0x20B27D, 0x20B280, 0x20B2DD, 0x20B2E1, 0x20B45D,
   0x20B461, 0x20B65D, 0x20B661, 0x20B75D, 0x20B761, 0x20B7BD, 0x20C004, 0x20E6FD, 0x20E804,
   0x20EADD, 0x20EC04, 0x20ED1D, 0x20F003, 0x20F0DD, 0x20F0E3, 0x20F63D, 0x20F643, 0x20F77D,
   0x210004, 0x2100DD, 0x210104, 0x21013D, 0x210144, 0x2106DD, 0x2106E4, 0x21073D, 0x210784,
   0x2107BD, 0x2107E4, 0x210ADD, 0x210AF1, 0x210B0A, 0x210C04, 0x210EF5, 0x210F2A, 0x211004,
   0x2113FD, 0x2114EA, 0x21161D, 0x211C04, 0x211E7D, 0x211E84, 0x211EDD, 0x211F6A, 0x212004,
   0x2122CA, 0x21239D, 0x2123F1, 0x212404, 0x21275D, 0x2127F1, 0x21281D, 0x213004, 0x21371D,
   0x21378A, 0x2137C4, 0x21380A, 0x213A1D, 0x213A4A, 0x214004, 0x214025, 0x21409D, 0x2140A5,
   0x2140FD, 0x214185, 0x214204, 0x21429D, 0x2142A4, 0x21431D, 0x214324, 0x2146DD, 0x214705,
   0x21477D, 0x2147E5, 0x21480A, 0x21493D, 0x214A11, 0x214B3D, 0x214C04, 0x214FAA, 0x214FF1,
   0x215004, 0x2153AA, 0x21541D, 0x215804, 0x215915, 0x215924, 0x215CA5, 0x215CFD, 0x215D6A,
   0x215E11, 0x215EFD, 0x216004, 0x2166DD, 0x216731, 0x216804, 0x216ADD, 0x216B0A, 0x216C04,
   0x216E7D, 0x216F0A, 0x217004, 0x21725D, 0x217331, 0x2173BD, 0x21752A, 0x21761D, 0x218004,
   0x21893D, 0x219000, 0x21967D, 0x219801, 0x219E7D, 0x219F4A, 0x21A004, 0x21A485, 0x21A51D,
   0x21A608, 0x21A75D, 0x21CC0A, 0x21CFFD, 0x21D004, 0x21D55D, 0x21D565, 0x21D5AC, 0x21D5DD,
   0x21D604, 0x21D65D, 0x21DFA5, 0x21E004, 0x21E3AA, 0x21E4E4, 0x21E51D, 0x21E604, 0x21E8C5,
   0x21EA2A, 0x21EAB1, 0x21EB5D, 0x21EE04, 0x21F045, 0x21F0D1, 0x21F15D, 0x21F604, 0x21F8AA,
   0x21F99D, 0x21FC04, 0x21FEFD, 0x220006, 0x220025, 0x220046, 0x220064, 0x220705, 0x2208F1,
   0x2209DD, 0x220A4A, 0x220CC8, 0x220E05, 0x220E24, 0x220E65, 0x220EA4, 0x220EDD, 0x220FE5,
   0x221046, 0x221064, 0x221606, 0x221665, 0x2216E6, 0x221725, 0x221771, 0x2217BA, 0x2217D1,
   0x221845, 0x22187D, 0x2219BA, 0x2219DD, 0x221A04, 0x221D3D, 0x221E08, 0x221F5D, 0x222005,
   0x222064, 0x2224E5, 0x222586, 0x2225A5, 0x2226BD, 0x2226C8, 0x222811, 0x222884, 0x2228A6,
   0x2228E4, 0x22291D, 0x222A04, 0x222E65, 0x222E91, 0x222EC4, 0x222EFD, 0x223005, 0x223046,
   0x223064, 0x223666, 0x2236C5, 0x2237E6, 0x223824, 0x2238B1, 0x223925, 0x2239B1, 0x2239C6,
   0x2239E5, 0x223A08, 0x223B44, 0x223B71, 0x223B84, 0x223BB1, 0x223C1D, 0x223C2A, 0x223EBD,
   0x224004, 0x22425D, 0x224264, 0x224586, 0x2245E5, 0x224646, 0x224685, 0x2246A6, 0x2246C5,
   0x224711, 0x2247C5, 0x2247E4, 0x224825, 0x22485D, 0x225004, 0x2250FD, 0x225104, 0x22513D,
   0x225144, 0x2251DD, 0x2251E4, 0x2253DD, 0x2253E4, 0x225531, 0x22555D, 0x225604, 0x225BE5,
   0x225C06, 0x225C65, 0x225D7D, 0x225E08, 0x225F5D, 0x226005, 0x226046, 0x22609D, 0x2260A4,
   0x2261BD, 0x2261E4, 0x22623D, 0x226264, 0x22653D, 0x226544, 0x22663D, 0x226644, 0x22669D,
   0x2266A4, 0x22675D, 0x226765, 0x2267A4, 0x2267C6, 0x226805, 0x226826, 0x2268BD, 0x2268E6,
   0x22693D, 0x226966, 0x2269DD, 0x226A04, 0x226A3D, 0x226AE6, 0x226B1D, 0x226BA4, 0x226C46,
   0x226C9D, 0x226CC5, 0x226DBD, 0x226E05, 0x226EBD, 0x228004, 0x2286A6, 0x228705, 0x228806,
   0x228845, 0x2288A6, 0x2288C5, 0x2288E4, 0x228971, 0x228A08, 0x228B51, 0x228B9D, 0x228BB1,
   0x228BC5, 0x228BE4, 0x228C5D, 0x229004, 0x229606, 0x229665, 0x229726, 0x229745, 0x229766,
   0x2297E5, 0x229826, 0x229845, 0x229884, 0x2298D1, 0x2298E4, 0x22991D, 0x229A08, 0x229B5D,
   0x22B004, 0x22B5E6, 0x22B645, 0x22B6DD, 0x22B706, 0x22B785, 0x22B7C6, 0x22B7E5, 0x22B831,
   0x22BB04, 0x22BB85, 0x22BBDD, 0x22C004, 0x22C606, 0x22C665, 0x22C766, 0x22C7A5, 0x22C7C6,
   0x22C7E5, 0x22C831, 0x22C884, 0x22C8BD, 0x22CA08, 0x22CB5D, 0x22CC11, 0x22CDBD, 0x22D004,
   0x22D565, 0x22D586, 0x22D5A5, 0x22D5C6, 0x22D605, 0x22D6C6, 0x22D6E5, 0x22D704, 0x22D731,
   0x22D75D, 0x22D808, 0x22D95D, 0x22E004, 0x22E37D, 0x22E3A5, 0x22E406, 0x22E445, 0x22E4C6,
   0x22E4E5, 0x22E59D, 0x22E608, 0x22E74A, 0x22E791, 0x22E7F5, 0x22E804, 0x22E8FD, 0x230004,
   0x230586, 0x2305E5, 0x230706, 0x230725, 0x230771, 0x23079D, 0x231400, 0x231801, 0x231C08,
   0x231D4A, 0x231E7D, 0x231FE4, 0x2320FD, 0x232124, 0x23215D, 0x232184, 0x23229D, 0x2322A4,
   0x2322FD, 0x232304, 0x232606, 0x2326DD, 0x2326E6, 0x23273D, 0x232765, 0x2327A6, 0x2327C5,
   0x2327E4, 0x232806, 0x232824, 0x232846, 0x232865, 0x232891, 0x2328FD, 0x232A08, 0x232B5D,
   0x233404, 0x23351D, 0x233544, 0x233A26, 0x233A85, 0x233B1D, 0x233B45, 0x233B86, 0x233C05,
   0x233C24, 0x233C51, 0x233C64, 0x233C86, 0x233CBD, 0x234004, 0x234025, 0x234164, 0x234665,
   0x234726, 0x234744, 0x234765, 0x2347F1, 0x2348E5, 0x23491D, 0x234A04, 0x234A25, 0x234AE6,
   0x234B25, 0x234B84, 0x235145, 0x2352E6, 0x235305, 0x235351, 0x2353A4, 0x2353D1, 0x23547D,
   0x235604, 0x235F3D, 0x236011, 0x23615D, 0x238004, 0x23813D, 0x238144, 0x2385E6, 0x238605,
   0x2386FD, 0x238705, 0x2387C6, 0x2387E5, 0x238804, 0x238831, 0x2388DD, 0x238A08, 0x238B4A,
   0x238DBD, 0x238E11, 0x238E44, 0x23921D, 0x239245, 0x23951D, 0x239526, 0x239545, 0x239626,
   0x239645, 0x239686, 0x2396A5, 0x2396FD, 0x23A004, 0x23A0FD, 0x23A104, 0x23A15D, 0x23A164,
   0x23A625, 0x23A6FD, 0x23A745, 0x23A77D, 0x23A785, 0x23A7DD, 0x23A7E5, 0x23A8C4, 0x23A8E5,
   0x23A91D, 0x23AA08, 0x23AB5D, 0x23AC04, 0x23ACDD, 0x23ACE4, 0x23AD3D, 0x23AD44, 0x23B146,
   0x23B1FD, 0x23B205, 0x23B25D, 0x23B266, 0x23B2A5, 0x23B2C6, 0x23B2E5, 0x23B304, 0x23B33D,
   0x23B408, 0x23B55D, 0x23DC04, 0x23DE65, 0x23DEA6, 0x23DEF1, 0x23DF3D, 0x23E005, 0x23E044,
   0x23E066, 0x23E084, 0x23E23D, 0x23E244, 0x23E686, 0x23E6C5, 0x23E77D, 0x23E7C6, 0x23E805,
   0x23E826, 0x23E845, 0x23E871, 0x23EA08, 0x23EB5D, 0x23F604, 0x23F63D, 0x23F80A, 0x23FAB5,
   0x23FBB3, 0x23FC35, 0x23FE5D, 0x23FFF1, 0x240004, 0x24735D, 0x248009, 0x248DFD, 0x248E11,
   0x248EBD, 0x249004, 0x24A89D, 0x25F204, 0x25FE31, 0x25FE7D, 0x260004, 0x26861A, 0x268805,
   0x268824, 0x2688E5, 0x268ADD, 0x288004, 0x28C8FD, 0x2D0004, 0x2D473D, 0x2D4804, 0x2D4BFD,
   0x2D4C08, 0x2D4D5D, 0x2D4DD1, 0x2D4E04, 0x2D57FD, 0x2D5808, 0x2D595D, 0x2D5A04, 0x2D5DDD,
   0x2D5E05, 0x2D5EB1, 0x2D5EDD, 0x2D6004, 0x2D6605, 0x2D66F1, 0x2D6795, 0x2D6803, 0x2D6891,
   0x2D68B5, 0x2D68DD, 0x2D6A08, 0x2D6B5D, 0x2D6B6A, 0x2D6C5D, 0x2D6C64, 0x2D6F1D, 0x2D6FA4,
   0x2D721D, 0x2DC800, 0x2DCC01, 0x2DD00A, 0x2DD2F1, 0x2DD37D, 0x2DE004, 0x2DE97D, 0x2DE9E5,
   0x2DEA04, 0x2DEA26, 0x2DF11D, 0x2DF1E5, 0x2DF263, 0x2DF41D, 0x2DFC03, 0x2DFC51, 0x2DFC63,
   0x2DFC85, 0x2DFCBD, 0x2DFE06, 0x2DFE5D, 0x2E0004, 0x30FF1D, 0x310004, 0x319ADD, 0x31A004,
   0x31A13D, 0x35FE03, 0x35FE9D, 0x35FEA3, 0x35FF9D, 0x35FFA3, 0x35FFFD, 0x360004, 0x36247D,
   0x362644, 0x36267D, 0x362A04, 0x362A7D, 0x362AA4, 0x362ADD, 0x362C84, 0x362D1D, 0x362E04,
   0x365F9D, 0x378004, 0x378D7D, 0x378E04, 0x378FBD, 0x379004, 0x37913D, 0x379204, 0x37935D,
   0x379395, 0x3793A5, 0x3793F1, 0x37941A, 0x37949D, 0x39E005, 0x39E5DD, 0x39E605, 0x39E8FD,
   0x39EA15, 0x39F89D, 0x3A0015, 0x3A1EDD, 0x3A2015, 0x3A24FD, 0x3A2535, 0x3A2CA6, 0x3A2CE5,
   0x3A2D55, 0x3A2DA6, 0x3A2E7A, 0x3A2F65, 0x3A3075, 0x3A30A5, 0x3A3195, 0x3A3545, 0x3A35D5,
   0x3A3D7D, 0x3A4015, 0x3A4845, 0x3A48B5, 0x3A48DD, 0x3A580A, 0x3A5A9D, 0x3A5C0A, 0x3A5E9D,
   0x3A6015, 0x3A6AFD, 0x3A6C0A, 0x3A6F3D, 0x3A8000, 0x3A8341, 0x3A8680, 0x3A89C1, 0x3A8ABD,
   0x3A8AC1, 0x3A8D00, 0x3A9041, 0x3A9380, 0x3A93BD, 0x3A93C0, 0x3A941D, 0x3A9440, 0x3A947D,
   0x3A94A0, 0x3A94FD, 0x3A9520, 0x3A95BD, 0x3A95C0, 0x3A96C1, 0x3A975D, 0x3A9761, 0x3A979D,
   0x3A97A1, 0x3A989D, 0x3A98A1, 0x3A9A00, 0x3A9D41, 0x3AA080, 0x3AA0DD, 0x3AA0E0, 0x3AA17D,
   0x3AA1A0, 0x3AA2BD, 0x3AA2C0, 0x3AA3BD, 0x3AA3C1, 0x3AA700, 0x3AA75D, 0x3AA760, 0x3AA7FD,
   0x3AA800, 0x3AA8BD, 0x3AA8C0, 0x3AA8FD, 0x3AA940, 0x3AAA3D, 0x3AAA41, 0x3AAD80, 0x3AB0C1,
   0x3AB400, 0x3AB741, 0x3ABA80, 0x3ABDC1, 0x3AC100, 0x3AC441, 0x3AC780, 0x3ACAC1, 0x3ACE00,
   0x3AD141, 0x3AD4DD, 0x3AD500, 0x3AD832, 0x3AD841, 0x3ADB72, 0x3ADB81, 0x3ADC40, 0x3ADF72,
   0x3ADF81, 0x3AE2B2, 0x3AE2C1, 0x3AE380, 0x3AE6B2, 0x3AE6C1, 0x3AE9F2, 0x3AEA01, 0x3AEAC0,
   0x3AEDF2, 0x3AEE01, 0x3AF132, 0x3AF141, 0x3AF200, 0x3AF532, 0x3AF541, 0x3AF872, 0x3AF881,
   0x3AF940, 0x3AF961, 0x3AF99D, 0x3AF9C8, 0x3B0015, 0x3B4005, 0x3B46F5, 0x3B4765, 0x3B4DB5,
   0x3B4EA5, 0x3B4ED5, 0x3B5085, 0x3B50B5, 0x3B50F1, 0x3B519D, 0x3B5365, 0x3B541D, 0x3B5425,
   0x3B561D, 0x3BE001, 0x3BE144, 0x3BE161, 0x3BE3FD, 0x3BE4A1, 0x3BE57D, 0x3C0005, 0x3C00FD,
   0x3C0105, 0x3C033D, 0x3C0365, 0x3C045D, 0x3C0465, 0x3C04BD, 0x3C04C5, 0x3C057D, 0x3C0603,
   0x3C0DDD, 0x3C11E5, 0x3C121D, 0x3C2004, 0x3C25BD, 0x3C2605, 0x3C26E3, 0x3C27DD, 0x3C2808,
   0x3C295D, 0x3C29C4, 0x3C29F5, 0x3C2A1D, 0x3C5204, 0x3C55C5, 0x3C55FD, 0x3C5804, 0x3C5D85,
   0x3C5E08, 0x3C5F5D, 0x3C5FF3, 0x3C601D, 0x3C9A04, 0x3C9D63, 0x3C9D85, 0x3C9E08, 0x3C9F5D,
   0x3CFC04, 0x3CFCFD, 0x3CFD04, 0x3CFD9D, 0x3CFDA4, 0x3CFDFD, 0x3CFE04, 0x3CFFFD, 0x3D0004,
   0x3D18BD, 0x3D18EA, 0x3D1A05, 0x3D1AFD, 0x3D2000, 0x3D2441, 0x3D2885, 0x3D2963, 0x3D299D,
   0x3D2A08, 0x3D2B5D, 0x3D2BD1, 0x3D2C1D, 0x3D8E2A, 0x3D9595, 0x3D95AA, 0x3D9613, 0x3D962A,
   0x3D96BD, 0x3DA02A, 0x3DA5D5, 0x3DA5EA, 0x3DA7DD, 0x3DC004, 0x3DC09D, 0x3DC0A4, 0x3DC41D,
   0x3DC424, 0x3DC47D, 0x3DC484, 0x3DC4BD, 0x3DC4E4, 0x3DC51D, 0x3DC524, 0x3DC67D, 0x3DC684,
   0x3DC71D, 0x3DC724, 0x3DC75D, 0x3DC764, 0x3DC79D, 0x3DC844, 0x3DC87D, 0x3DC8E4, 0x3DC91D,
   0x3DC924, 0x3DC95D, 0x3DC964, 0x3DC99D, 0x3DC9A4, 0x3DCA1D, 0x3DCA24, 0x3DCA7D, 0x3DCA84,
   0x3DCABD, 0x3DCAE4, 0x3DCB1D, 0x3DCB24, 0x3DCB5D, 0x3DCB64, 0x3DCB9D, 0x3DCBA4, 0x3DCBDD,
   0x3DCBE4, 0x3DCC1D, 0x3DCC24, 0x3DCC7D, 0x3DCC84, 0x3DCCBD, 0x3DCCE4, 0x3DCD7D, 0x3DCD84,
   0x3DCE7D, 0x3DCE84, 0x3DCF1D, 0x3DCF24, 0x3DCFBD, 0x3DCFC4, 0x3DCFFD, 0x3DD004, 0x3DD15D,
   0x3DD164, 0x3DD39D, 0x3DD424, 0x3DD49D, 0x3DD4A4, 0x3DD55D, 0x3DD564, 0x3DD79D, 0x3DDE12,
   0x3DDE5D, 0x3E0015, 0x3E059D, 0x3E0615, 0x3E129D, 0x3E1415, 0x3E15FD, 0x3E1635, 0x3E181D,
   0x3E1835, 0x3E1A1D, 0x3E1A35, 0x3E1EDD, 0x3E200A, 0x3E21B5, 0x3E35DD, 0x3E3CD5, 0x3E407D,
   0x3E4215, 0x3E479D, 0x3E4815, 0x3E493D, 0x3E4A15, 0x3E4A5D, 0x3E4C15, 0x3E4CDD, 0x3E6015,
   0x3E7F74, 0x3E8015, 0x3EDB1D, 0x3EDB95, 0x3EDDBD, 0x3EDE15, 0x3EDFBD, 0x3EE015, 0x3EEEFD,
   0x3EEF75, 0x3EFB5D, 0x3EFC15, 0x3EFD9D, 0x3EFE15, 0x3EFE3D, 0x3F0015, 0x3F019D, 0x3F0215,
   0x3F091D, 0x3F0A15, 0x3F0B5D, 0x3F0C15, 0x3F111D, 0x3F1215, 0x3F15DD, 0x3F1615, 0x3F165D,
   0x3F2015, 0x3F4A9D, 0x3F4C15, 0x3F4DDD, 0x3F4E15, 0x3F4FBD, 0x3F5015, 0x3F513D, 0x3F5215,
   0x3F57DD, 0x3F57F5, 0x3F58DD, 0x3F59D5, 0x3F5B9D, 0x3F5C15, 0x3F5D3D, 0x3F5E15, 0x3F5F3D,
   0x3F6015, 0x3F727D, 0x3F7295, 0x3F797D, 0x3F7E08, 0x3F7F5D, 0x400004, 0x54DC1D, 0x54E004,
   0x56E75D, 0x56E804, 0x5703DD, 0x570404, 0x59D45D, 0x59D604, 0x5D7C3D, 0x5F0004, 0x5F43DD,
   0x600004, 0x62697D, 0x626A04, 0x64761D, 0x1C0003A, 0x1C0005D, 0x1C0041A, 0x1C0101D, 0x1C02005,
   0x1C03E1D, 0x1E0001C, 0x1FFFFDD, 0x200001C, 0x21FFFDD, 0x220001D]

/-- Where the category changes. -/
def points : List Nat := Runs.starts 32 runs

end Category

/-- The general category of a character. -/
def category (c : Char) : Category :=
  (Category.all[Runs.valueAt 32 Category.runs c.toNat 29]?).getD .unassigned

theorem category_congr {c d : Char} (h : SameSide Category.points c.toNat d.toNat) :
    category c = category d := by
  rw [category, category, Runs.valueAt_congr h]

namespace Category

/-- A letter with case. -/
def isCasedLetter : Category → Bool
  | uppercaseLetter | lowercaseLetter | titlecaseLetter => true
  | _ => false

/-- A letter. -/
def isLetter (g : Category) : Bool := g.isCasedLetter || g == modifierLetter || g == otherLetter

/-- A combining mark. -/
def isMark : Category → Bool
  | nonspacingMark | spacingMark | enclosingMark => true
  | _ => false

/-- A number: decimal digits, letter numbers such as the Roman ones, and
all others, such as fractions. -/
def isNumber : Category → Bool
  | decimalNumber | letterNumber | otherNumber => true
  | _ => false

/-- A punctuation mark. -/
def isPunctuation : Category → Bool
  | connectorPunctuation | dashPunctuation | openPunctuation | closePunctuation
  | initialPunctuation | finalPunctuation | otherPunctuation => true
  | _ => false

/-- A symbol. -/
def isSymbol : Category → Bool
  | mathSymbol | currencySymbol | modifierSymbol | otherSymbol => true
  | _ => false

/-- A separator. -/
def isSeparator : Category → Bool
  | spaceSeparator | lineSeparator | paragraphSeparator => true
  | _ => false

/-- None of the above: controls, format characters and code points without
a character. -/
def isOther : Category → Bool
  | control | format | surrogate | privateUse | unassigned => true
  | _ => false

end Category

/-- A number of any kind, decimal or not. -/
def isNumeric (c : Char) : Bool := (category c).isNumber

/-- A character with a shape or an advance of its own: no control, no
format character, no separator but the plain space, and assigned. -/
def isPrintable (c : Char) : Bool :=
  c == ' ' || !((category c).isOther || (category c).isSeparator)

end Criteria.Unicode
