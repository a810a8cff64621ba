import ScopeTokenizer.Unicode.CaseTable

/-!
# Case mappings

The unconditional full mappings of the Unicode Character Database: each entry gives a
code point and the one, two or three code points it maps to. Code points without an
entry map to themselves.

The upper-case mappings and the foldings are written as numbers, since proofs look through them;
as a text they would take too long to read there.
-/

namespace ScopeTokenizer.Unicode.CaseMapping

set_option maxRecDepth 20000 in
/-- Full upper-case mappings. -/
def upper : CaseTable := .ofCodes [
  (0x61, [0x41]), (0x62, [0x42]), (0x63, [0x43]), (0x64, [0x44]), (0x65, [0x45]),
  (0x66, [0x46]), (0x67, [0x47]), (0x68, [0x48]), (0x69, [0x49]), (0x6a, [0x4a]),
  (0x6b, [0x4b]), (0x6c, [0x4c]), (0x6d, [0x4d]), (0x6e, [0x4e]), (0x6f, [0x4f]),
  (0x70, [0x50]), (0x71, [0x51]), (0x72, [0x52]), (0x73, [0x53]), (0x74, [0x54]),
  (0x75, [0x55]), (0x76, [0x56]), (0x77, [0x57]), (0x78, [0x58]), (0x79, [0x59]),
  (0x7a, [0x5a]), (0xb5, [0x39c]), (0xdf, [0x53, 0x53]), (0xe0, [0xc0]), (0xe1, [0xc1]),
  (0xe2, [0xc2]), (0xe3, [0xc3]), (0xe4, [0xc4]), (0xe5, [0xc5]), (0xe6, [0xc6]),
  (0xe7, [0xc7]), (0xe8, [0xc8]), (0xe9, [0xc9]), (0xea, [0xca]), (0xeb, [0xcb]),
  (0xec, [0xcc]), (0xed, [0xcd]), (0xee, [0xce]), (0xef, [0xcf]), (0xf0, [0xd0]),
  (0xf1, [0xd1]), (0xf2, [0xd2]), (0xf3, [0xd3]), (0xf4, [0xd4]), (0xf5, [0xd5]),
  (0xf6, [0xd6]), (0xf8, [0xd8]), (0xf9, [0xd9]), (0xfa, [0xda]), (0xfb, [0xdb]),
  (0xfc, [0xdc]), (0xfd, [0xdd]), (0xfe, [0xde]), (0xff, [0x178]), (0x101, [0x100]),
  (0x103, [0x102]), (0x105, [0x104]), (0x107, [0x106]), (0x109, [0x108]), (0x10b, [0x10a]),
  (0x10d, [0x10c]), (0x10f, [0x10e]), (0x111, [0x110]), (0x113, [0x112]), (0x115, [0x114]),
  (0x117, [0x116]), (0x119, [0x118]), (0x11b, [0x11a]), (0x11d, [0x11c]), (0x11f, [0x11e]),
  (0x121, [0x120]), (0x123, [0x122]), (0x125, [0x124]), (0x127, [0x126]), (0x129, [0x128]),
  (0x12b, [0x12a]), (0x12d, [0x12c]), (0x12f, [0x12e]), (0x131, [0x49]), (0x133, [0x132]),
  (0x135, [0x134]), (0x137, [0x136]), (0x13a, [0x139]), (0x13c, [0x13b]), (0x13e, [0x13d]),
  (0x140, [0x13f]), (0x142, [0x141]), (0x144, [0x143]), (0x146, [0x145]), (0x148, [0x147]),
  (0x149, [0x2bc, 0x4e]), (0x14b, [0x14a]), (0x14d, [0x14c]), (0x14f, [0x14e]),
  (0x151, [0x150]), (0x153, [0x152]), (0x155, [0x154]), (0x157, [0x156]), (0x159, [0x158]),
  (0x15b, [0x15a]), (0x15d, [0x15c]), (0x15f, [0x15e]), (0x161, [0x160]), (0x163, [0x162]),
  (0x165, [0x164]), (0x167, [0x166]), (0x169, [0x168]), (0x16b, [0x16a]), (0x16d, [0x16c]),
  (0x16f, [0x16e]), (0x171, [0x170]), (0x173, [0x172]), (0x175, [0x174]), (0x177, [0x176]),
  (0x17a, [0x179]), (0x17c, [0x17b]), (0x17e, [0x17d]), (0x17f, [0x53]), (0x180, [0x243]),
  (0x183, [0x182]), (0x185, [0x184]), (0x188, [0x187]), (0x18c, [0x18b]), (0x192, [0x191]),
  (0x195, [0x1f6]), (0x199, [0x198]), (0x19a, [0x23d]), (0x19e, [0x220]), (0x1a1, [0x1a0]),
  (0x1a3, [0x1a2]), (0x1a5, [0x1a4]), (0x1a8, [0x1a7]), (0x1ad, [0x1ac]), (0x1b0, [0x1af]),
  (0x1b4, [0x1b3]), (0x1b6, [0x1b5]), (0x1b9, [0x1b8]), (0x1bd, [0x1bc]), (0x1bf, [0x1f7]),
  (0x1c5, [0x1c4]), (0x1c6, [0x1c4]), (0x1c8, [0x1c7]), (0x1c9, [0x1c7]), (0x1cb, [0x1ca]),
  (0x1cc, [0x1ca]), (0x1ce, [0x1cd]), (0x1d0, [0x1cf]), (0x1d2, [0x1d1]), (0x1d4, [0x1d3]),
  (0x1d6, [0x1d5]), (0x1d8, [0x1d7]), (0x1da, [0x1d9]), (0x1dc, [0x1db]), (0x1dd, [0x18e]),
  (0x1df, [0x1de]), (0x1e1, [0x1e0]), (0x1e3, [0x1e2]), (0x1e5, [0x1e4]), (0x1e7, [0x1e6]),
  (0x1e9, [0x1e8]), (0x1eb, [0x1ea]), (0x1ed, [0x1ec]), (0x1ef, [0x1ee]),
  (0x1f0, [0x4a, 0x30c]), (0x1f2, [0x1f1]), (0x1f3, [0x1f1]), (0x1f5, [0x1f4]),
  (0x1f9, [0x1f8]), (0x1fb, [0x1fa]), (0x1fd, [0x1fc]), (0x1ff, [0x1fe]), (0x201, [0x200]),
  (0x203, [0x202]), (0x205, [0x204]), (0x207, [0x206]), (0x209, [0x208]), (0x20b, [0x20a]),
  (0x20d, [0x20c]), (0x20f, [0x20e]), (0x211, [0x210]), (0x213, [0x212]), (0x215, [0x214]),
  (0x217, [0x216]), (0x219, [0x218]), (0x21b, [0x21a]), (0x21d, [0x21c]), (0x21f, [0x21e]),
  (0x223, [0x222]), (0x225, [0x224]), (0x227, [0x226]), (0x229, [0x228]), (0x22b, [0x22a]),
  (0x22d, [0x22c]), (0x22f, [0x22e]), (0x231, [0x230]), (0x233, [0x232]), (0x23c, [0x23b]),
  (0x23f, [0x2c7e]), (0x240, [0x2c7f]), (0x242, [0x241]), (0x247, [0x246]), (0x249, [0x248]),
  (0x24b, [0x24a]), (0x24d, [0x24c]), (0x24f, [0x24e]), (0x250, [0x2c6f]), (0x251, [0x2c6d]),
  (0x252, [0x2c70]), (0x253, [0x181]), (0x254, [0x186]), (0x256, [0x189]), (0x257, [0x18a]),
  (0x259, [0x18f]), (0x25b, [0x190]), (0x25c, [0xa7ab]), (0x260, [0x193]), (0x261, [0xa7ac]),
  (0x263, [0x194]), (0x265, [0xa78d]), (0x266, [0xa7aa]), (0x268, [0x197]), (0x269, [0x196]),
  (0x26a, [0xa7ae]), (0x26b, [0x2c62]), (0x26c, [0xa7ad]), (0x26f, [0x19c]), (0x271, [0x2c6e]),
  (0x272, [0x19d]), (0x275, [0x19f]), (0x27d, [0x2c64]), (0x280, [0x1a6]), (0x282, [0xa7c5]),
  (0x283, [0x1a9]), (0x287, [0xa7b1]), (0x288, [0x1ae]), (0x289, [0x244]), (0x28a, [0x1b1]),
  (0x28b, [0x1b2]), (0x28c, [0x245]), (0x292, [0x1b7]), (0x29d, [0xa7b2]), (0x29e, [0xa7b0]),
  (0x345, [0x399]), (0x371, [0x370]), (0x373, [0x372]), (0x377, [0x376]), (0x37b, [0x3fd]),
  (0x37c, [0x3fe]), (0x37d, [0x3ff]), (0x390, [0x399, 0x308, 0x301]), (0x3ac, [0x386]),
  (0x3ad, [0x388]), (0x3ae, [0x389]), (0x3af, [0x38a]), (0x3b0, [0x3a5, 0x308, 0x301]),
  (0x3b1, [0x391]), (0x3b2, [0x392]), (0x3b3, [0x393]), (0x3b4, [0x394]), (0x3b5, [0x395]),
  (0x3b6, [0x396]), (0x3b7, [0x397]), (0x3b8, [0x398]), (0x3b9, [0x399]), (0x3ba, [0x39a]),
  (0x3bb, [0x39b]), (0x3bc, [0x39c]), (0x3bd, [0x39d]), (0x3be, [0x39e]), (0x3bf, [0x39f]),
  (0x3c0, [0x3a0]), (0x3c1, [0x3a1]), (0x3c2, [0x3a3]), (0x3c3, [0x3a3]), (0x3c4, [0x3a4]),
  (0x3c5, [0x3a5]), (0x3c6, [0x3a6]), (0x3c7, [0x3a7]), (0x3c8, [0x3a8]), (0x3c9, [0x3a9]),
  (0x3ca, [0x3aa]), (0x3cb, [0x3ab]), (0x3cc, [0x38c]), (0x3cd, [0x38e]), (0x3ce, [0x38f]),
  (0x3d0, [0x392]), (0x3d1, [0x398]), (0x3d5, [0x3a6]), (0x3d6, [0x3a0]), (0x3d7, [0x3cf]),
  (0x3d9, [0x3d8]), (0x3db, [0x3da]), (0x3dd, [0x3dc]), (0x3df, [0x3de]), (0x3e1, [0x3e0]),
  (0x3e3, [0x3e2]), (0x3e5, [0x3e4]), (0x3e7, [0x3e6]), (0x3e9, [0x3e8]), (0x3eb, [0x3ea]),
  (0x3ed, [0x3ec]), (0x3ef, [0x3ee]), (0x3f0, [0x39a]), (0x3f1, [0x3a1]), (0x3f2, [0x3f9]),
  (0x3f3, [0x37f]), (0x3f5, [0x395]), (0x3f8, [0x3f7]), (0x3fb, [0x3fa]), (0x430, [0x410]),
  (0x431, [0x411]), (0x432, [0x412]), (0x433, [0x413]), (0x434, [0x414]), (0x435, [0x415]),
  (0x436, [0x416]), (0x437, [0x417]), (0x438, [0x418]), (0x439, [0x419]), (0x43a, [0x41a]),
  (0x43b, [0x41b]), (0x43c, [0x41c]), (0x43d, [0x41d]), (0x43e, [0x41e]), (0x43f, [0x41f]),
  (0x440, [0x420]), (0x441, [0x421]), (0x442, [0x422]), (0x443, [0x423]), (0x444, [0x424]),
  (0x445, [0x425]), (0x446, [0x426]), (0x447, [0x427]), (0x448, [0x428]), (0x449, [0x429]),
  (0x44a, [0x42a]), (0x44b, [0x42b]), (0x44c, [0x42c]), (0x44d, [0x42d]), (0x44e, [0x42e]),
  (0x44f, [0x42f]), (0x450, [0x400]), (0x451, [0x401]), (0x452, [0x402]), (0x453, [0x403]),
  (0x454, [0x404]), (0x455, [0x405]), (0x456, [0x406]), (0x457, [0x407]), (0x458, [0x408]),
  (0x459, [0x409]), (0x45a, [0x40a]), (0x45b, [0x40b]), (0x45c, [0x40c]), (0x45d, [0x40d]),
  (0x45e, [0x40e]), (0x45f, [0x40f]), (0x461, [0x460]), (0x463, [0x462]), (0x465, [0x464]),
  (0x467, [0x466]), (0x469, [0x468]), (0x46b, [0x46a]), (0x46d, [0x46c]), (0x46f, [0x46e]),
  (0x471, [0x470]), (0x473, [0x472]), (0x475, [0x474]), (0x477, [0x476]), (0x479, [0x478]),
  (0x47b, [0x47a]), (0x47d, [0x47c]), (0x47f, [0x47e]), (0x481, [0x480]), (0x48b, [0x48a]),
  (0x48d, [0x48c]), (0x48f, [0x48e]), (0x491, [0x490]), (0x493, [0x492]), (0x495, [0x494]),
  (0x497, [0x496]), (0x499, [0x498]), (0x49b, [0x49a]), (0x49d, [0x49c]), (0x49f, [0x49e]),
  (0x4a1, [0x4a0]), (0x4a3, [0x4a2]), (0x4a5, [0x4a4]), (0x4a7, [0x4a6]), (0x4a9, [0x4a8]),
  (0x4ab, [0x4aa]), (0x4ad, [0x4ac]), (0x4af, [0x4ae]), (0x4b1, [0x4b0]), (0x4b3, [0x4b2]),
  (0x4b5, [0x4b4]), (0x4b7, [0x4b6]), (0x4b9, [0x4b8]), (0x4bb, [0x4ba]), (0x4bd, [0x4bc]),
  (0x4bf, [0x4be]), (0x4c2, [0x4c1]), (0x4c4, [0x4c3]), (0x4c6, [0x4c5]), (0x4c8, [0x4c7]),
  (0x4ca, [0x4c9]), (0x4cc, [0x4cb]), (0x4ce, [0x4cd]), (0x4cf, [0x4c0]), (0x4d1, [0x4d0]),
  (0x4d3, [0x4d2]), (0x4d5, [0x4d4]), (0x4d7, [0x4d6]), (0x4d9, [0x4d8]), (0x4db, [0x4da]),
  (0x4dd, [0x4dc]), (0x4df, [0x4de]), (0x4e1, [0x4e0]), (0x4e3, [0x4e2]), (0x4e5, [0x4e4]),
  (0x4e7, [0x4e6]), (0x4e9, [0x4e8]), (0x4eb, [0x4ea]), (0x4ed, [0x4ec]), (0x4ef, [0x4ee]),
  (0x4f1, [0x4f0]), (0x4f3, [0x4f2]), (0x4f5, [0x4f4]), (0x4f7, [0x4f6]), (0x4f9, [0x4f8]),
  (0x4fb, [0x4fa]), (0x4fd, [0x4fc]), (0x4ff, [0x4fe]), (0x501, [0x500]), (0x503, [0x502]),
  (0x505, [0x504]), (0x507, [0x506]), (0x509, [0x508]), (0x50b, [0x50a]), (0x50d, [0x50c]),
  (0x50f, [0x50e]), (0x511, [0x510]), (0x513, [0x512]), (0x515, [0x514]), (0x517, [0x516]),
  (0x519, [0x518]), (0x51b, [0x51a]), (0x51d, [0x51c]), (0x51f, [0x51e]), (0x521, [0x520]),
  (0x523, [0x522]), (0x525, [0x524]), (0x527, [0x526]), (0x529, [0x528]), (0x52b, [0x52a]),
  (0x52d, [0x52c]), (0x52f, [0x52e]), (0x561, [0x531]), (0x562, [0x532]), (0x563, [0x533]),
  (0x564, [0x534]), (0x565, [0x535]), (0x566, [0x536]), (0x567, [0x537]), (0x568, [0x538]),
  (0x569, [0x539]), (0x56a, [0x53a]), (0x56b, [0x53b]), (0x56c, [0x53c]), (0x56d, [0x53d]),
  (0x56e, [0x53e]), (0x56f, [0x53f]), (0x570, [0x540]), (0x571, [0x541]), (0x572, [0x542]),
  (0x573, [0x543]), (0x574, [0x544]), (0x575, [0x545]), (0x576, [0x546]), (0x577, [0x547]),
  (0x578, [0x548]), (0x579, [0x549]), (0x57a, [0x54a]), (0x57b, [0x54b]), (0x57c, [0x54c]),
  (0x57d, [0x54d]), (0x57e, [0x54e]), (0x57f, [0x54f]), (0x580, [0x550]), (0x581, [0x551]),
  (0x582, [0x552]), (0x583, [0x553]), (0x584, [0x554]), (0x585, [0x555]), (0x586, [0x556]),
  (0x587, [0x535, 0x552]), (0x10d0, [0x1c90]), (0x10d1, [0x1c91]), (0x10d2, [0x1c92]),
  (0x10d3, [0x1c93]), (0x10d4, [0x1c94]), (0x10d5, [0x1c95]), (0x10d6, [0x1c96]),
  (0x10d7, [0x1c97]), (0x10d8, [0x1c98]), (0x10d9, [0x1c99]), (0x10da, [0x1c9a]),
  (0x10db, [0x1c9b]), (0x10dc, [0x1c9c]), (0x10dd, [0x1c9d]), (0x10de, [0x1c9e]),
  (0x10df, [0x1c9f]), (0x10e0, [0x1ca0]), (0x10e1, [0x1ca1]), (0x10e2, [0x1ca2]),
  (0x10e3, [0x1ca3]), (0x10e4, [0x1ca4]), (0x10e5, [0x1ca5]), (0x10e6, [0x1ca6]),
  (0x10e7, [0x1ca7]), (0x10e8, [0x1ca8]), (0x10e9, [0x1ca9]), (0x10ea, [0x1caa]),
  (0x10eb, [0x1cab]), (0x10ec, [0x1cac]), (0x10ed, [0x1cad]), (0x10ee, [0x1cae]),
  (0x10ef, [0x1caf]), (0x10f0, [0x1cb0]), (0x10f1, [0x1cb1]), (0x10f2, [0x1cb2]),
  (0x10f3, [0x1cb3]), (0x10f4, [0x1cb4]), (0x10f5, [0x1cb5]), (0x10f6, [0x1cb6]),
  (0x10f7, [0x1cb7]), (0x10f8, [0x1cb8]), (0x10f9, [0x1cb9]), (0x10fa, [0x1cba]),
  (0x10fd, [0x1cbd]), (0x10fe, [0x1cbe]), (0x10ff, [0x1cbf]), (0x13f8, [0x13f0]),
  (0x13f9, [0x13f1]), (0x13fa, [0x13f2]), (0x13fb, [0x13f3]), (0x13fc, [0x13f4]),
  (0x13fd, [0x13f5]), (0x1c80, [0x412]), (0x1c81, [0x414]), (0x1c82, [0x41e]),
  (0x1c83, [0x421]), (0x1c84, [0x422]), (0x1c85, [0x422]), (0x1c86, [0x42a]), (0x1c87, [0x462]),
  (0x1c88, [0xa64a]), (0x1d79, [0xa77d]), (0x1d7d, [0x2c63]), (0x1d8e, [0xa7c6]),
  (0x1e01, [0x1e00]), (0x1e03, [0x1e02]), (0x1e05, [0x1e04]), (0x1e07, [0x1e06]),
  (0x1e09, [0x1e08]), (0x1e0b, [0x1e0a]), (0x1e0d, [0x1e0c]), (0x1e0f, [0x1e0e]),
  (0x1e11, [0x1e10]), (0x1e13, [0x1e12]), (0x1e15, [0x1e14]), (0x1e17, [0x1e16]),
  (0x1e19, [0x1e18]), (0x1e1b, [0x1e1a]), (0x1e1d, [0x1e1c]), (0x1e1f, [0x1e1e]),
  (0x1e21, [0x1e20]), (0x1e23, [0x1e22]), (0x1e25, [0x1e24]), (0x1e27, [0x1e26]),
  (0x1e29, [0x1e28]), (0x1e2b, [0x1e2a]), (0x1e2d, [0x1e2c]), (0x1e2f, [0x1e2e]),
  (0x1e31, [0x1e30]), (0x1e33, [0x1e32]), (0x1e35, [0x1e34]), (0x1e37, [0x1e36]),
  (0x1e39, [0x1e38]), (0x1e3b, [0x1e3a]), (0x1e3d, [0x1e3c]), (0x1e3f, [0x1e3e]),
  (0x1e41, [0x1e40]), (0x1e43, [0x1e42]), (0x1e45, [0x1e44]), (0x1e47, [0x1e46]),
  (0x1e49, [0x1e48]), (0x1e4b, [0x1e4a]), (0x1e4d, [0x1e4c]), (0x1e4f, [0x1e4e]),
  (0x1e51, [0x1e50]), (0x1e53, [0x1e52]), (0x1e55, [0x1e54]), (0x1e57, [0x1e56]),
  (0x1e59, [0x1e58]), (0x1e5b, [0x1e5a]), (0x1e5d, [0x1e5c]), (0x1e5f, [0x1e5e]),
  (0x1e61, [0x1e60]), (0x1e63, [0x1e62]), (0x1e65, [0x1e64]), (0x1e67, [0x1e66]),
  (0x1e69, [0x1e68]), (0x1e6b, [0x1e6a]), (0x1e6d, [0x1e6c]), (0x1e6f, [0x1e6e]),
  (0x1e71, [0x1e70]), (0x1e73, [0x1e72]), (0x1e75, [0x1e74]), (0x1e77, [0x1e76]),
  (0x1e79, [0x1e78]), (0x1e7b, [0x1e7a]), (0x1e7d, [0x1e7c]), (0x1e7f, [0x1e7e]),
  (0x1e81, [0x1e80]), (0x1e83, [0x1e82]), (0x1e85, [0x1e84]), (0x1e87, [0x1e86]),
  (0x1e89, [0x1e88]), (0x1e8b, [0x1e8a]), (0x1e8d, [0x1e8c]), (0x1e8f, [0x1e8e]),
  (0x1e91, [0x1e90]), (0x1e93, [0x1e92]), (0x1e95, [0x1e94]), (0x1e96, [0x48, 0x331]),
  (0x1e97, [0x54, 0x308]), (0x1e98, [0x57, 0x30a]), (0x1e99, [0x59, 0x30a]),
  (0x1e9a, [0x41, 0x2be]), (0x1e9b, [0x1e60]), (0x1ea1, [0x1ea0]), (0x1ea3, [0x1ea2]),
  (0x1ea5, [0x1ea4]), (0x1ea7, [0x1ea6]), (0x1ea9, [0x1ea8]), (0x1eab, [0x1eaa]),
  (0x1ead, [0x1eac]), (0x1eaf, [0x1eae]), (0x1eb1, [0x1eb0]), (0x1eb3, [0x1eb2]),
  (0x1eb5, [0x1eb4]), (0x1eb7, [0x1eb6]), (0x1eb9, [0x1eb8]), (0x1ebb, [0x1eba]),
  (0x1ebd, [0x1ebc]), (0x1ebf, [0x1ebe]), (0x1ec1, [0x1ec0]), (0x1ec3, [0x1ec2]),
  (0x1ec5, [0x1ec4]), (0x1ec7, [0x1ec6]), (0x1ec9, [0x1ec8]), (0x1ecb, [0x1eca]),
  (0x1ecd, [0x1ecc]), (0x1ecf, [0x1ece]), (0x1ed1, [0x1ed0]), (0x1ed3, [0x1ed2]),
  (0x1ed5, [0x1ed4]), (0x1ed7, [0x1ed6]), (0x1ed9, [0x1ed8]), (0x1edb, [0x1eda]),
  (0x1edd, [0x1edc]), (0x1edf, [0x1ede]), (0x1ee1, [0x1ee0]), (0x1ee3, [0x1ee2]),
  (0x1ee5, [0x1ee4]), (0x1ee7, [0x1ee6]), (0x1ee9, [0x1ee8]), (0x1eeb, [0x1eea]),
  (0x1eed, [0x1eec]), (0x1eef, [0x1eee]), (0x1ef1, [0x1ef0]), (0x1ef3, [0x1ef2]),
  (0x1ef5, [0x1ef4]), (0x1ef7, [0x1ef6]), (0x1ef9, [0x1ef8]), (0x1efb, [0x1efa]),
  (0x1efd, [0x1efc]), (0x1eff, [0x1efe]), (0x1f00, [0x1f08]), (0x1f01, [0x1f09]),
  (0x1f02, [0x1f0a]), (0x1f03, [0x1f0b]), (0x1f04, [0x1f0c]), (0x1f05, [0x1f0d]),
  (0x1f06, [0x1f0e]), (0x1f07, [0x1f0f]), (0x1f10, [0x1f18]), (0x1f11, [0x1f19]),
  (0x1f12, [0x1f1a]), (0x1f13, [0x1f1b]), (0x1f14, [0x1f1c]), (0x1f15, [0x1f1d]),
  (0x1f20, [0x1f28]), (0x1f21, [0x1f29]), (0x1f22, [0x1f2a]), (0x1f23, [0x1f2b]),
  (0x1f24, [0x1f2c]), (0x1f25, [0x1f2d]), (0x1f26, [0x1f2e]), (0x1f27, [0x1f2f]),
  (0x1f30, [0x1f38]), (0x1f31, [0x1f39]), (0x1f32, [0x1f3a]), (0x1f33, [0x1f3b]),
  (0x1f34, [0x1f3c]), (0x1f35, [0x1f3d]), (0x1f36, [0x1f3e]), (0x1f37, [0x1f3f]),
  (0x1f40, [0x1f48]), (0x1f41, [0x1f49]), (0x1f42, [0x1f4a]), (0x1f43, [0x1f4b]),
  (0x1f44, [0x1f4c]), (0x1f45, [0x1f4d]), (0x1f50, [0x3a5, 0x313]), (0x1f51, [0x1f59]),
  (0x1f52, [0x3a5, 0x313, 0x300]), (0x1f53, [0x1f5b]), (0x1f54, [0x3a5, 0x313, 0x301]),
  (0x1f55, [0x1f5d]), (0x1f56, [0x3a5, 0x313, 0x342]), (0x1f57, [0x1f5f]), (0x1f60, [0x1f68]),
  (0x1f61, [0x1f69]), (0x1f62, [0x1f6a]), (0x1f63, [0x1f6b]), (0x1f64, [0x1f6c]),
  (0x1f65, [0x1f6d]), (0x1f66, [0x1f6e]), (0x1f67, [0x1f6f]), (0x1f70, [0x1fba]),
  (0x1f71, [0x1fbb]), (0x1f72, [0x1fc8]), (0x1f73, [0x1fc9]), (0x1f74, [0x1fca]),
  (0x1f75, [0x1fcb]), (0x1f76, [0x1fda]), (0x1f77, [0x1fdb]), (0x1f78, [0x1ff8]),
  (0x1f79, [0x1ff9]), (0x1f7a, [0x1fea]), (0x1f7b, [0x1feb]), (0x1f7c, [0x1ffa]),
  (0x1f7d, [0x1ffb]), (0x1f80, [0x1f08, 0x399]), (0x1f81, [0x1f09, 0x399]),
  (0x1f82, [0x1f0a, 0x399]), (0x1f83, [0x1f0b, 0x399]), (0x1f84, [0x1f0c, 0x399]),
  (0x1f85, [0x1f0d, 0x399]), (0x1f86, [0x1f0e, 0x399]), (0x1f87, [0x1f0f, 0x399]),
  (0x1f88, [0x1f08, 0x399]), (0x1f89, [0x1f09, 0x399]), (0x1f8a, [0x1f0a, 0x399]),
  (0x1f8b, [0x1f0b, 0x399]), (0x1f8c, [0x1f0c, 0x399]), (0x1f8d, [0x1f0d, 0x399]),
  (0x1f8e, [0x1f0e, 0x399]), (0x1f8f, [0x1f0f, 0x399]), (0x1f90, [0x1f28, 0x399]),
  (0x1f91, [0x1f29, 0x399]), (0x1f92, [0x1f2a, 0x399]), (0x1f93, [0x1f2b, 0x399]),
  (0x1f94, [0x1f2c, 0x399]), (0x1f95, [0x1f2d, 0x399]), (0x1f96, [0x1f2e, 0x399]),
  (0x1f97, [0x1f2f, 0x399]), (0x1f98, [0x1f28, 0x399]), (0x1f99, [0x1f29, 0x399]),
  (0x1f9a, [0x1f2a, 0x399]), (0x1f9b, [0x1f2b, 0x399]), (0x1f9c, [0x1f2c, 0x399]),
  (0x1f9d, [0x1f2d, 0x399]), (0x1f9e, [0x1f2e, 0x399]), (0x1f9f, [0x1f2f, 0x399]),
  (0x1fa0, [0x1f68, 0x399]), (0x1fa1, [0x1f69, 0x399]), (0x1fa2, [0x1f6a, 0x399]),
  (0x1fa3, [0x1f6b, 0x399]), (0x1fa4, [0x1f6c, 0x399]), (0x1fa5, [0x1f6d, 0x399]),
  (0x1fa6, [0x1f6e, 0x399]), (0x1fa7, [0x1f6f, 0x399]), (0x1fa8, [0x1f68, 0x399]),
  (0x1fa9, [0x1f69, 0x399]), (0x1faa, [0x1f6a, 0x399]), (0x1fab, [0x1f6b, 0x399]),
  (0x1fac, [0x1f6c, 0x399]), (0x1fad, [0x1f6d, 0x399]), (0x1fae, [0x1f6e, 0x399]),
  (0x1faf, [0x1f6f, 0x399]), (0x1fb0, [0x1fb8]), (0x1fb1, [0x1fb9]), (0x1fb2, [0x1fba, 0x399]),
  (0x1fb3, [0x391, 0x399]), (0x1fb4, [0x386, 0x399]), (0x1fb6, [0x391, 0x342]),
  (0x1fb7, [0x391, 0x342, 0x399]), (0x1fbc, [0x391, 0x399]), (0x1fbe, [0x399]),
  (0x1fc2, [0x1fca, 0x399]), (0x1fc3, [0x397, 0x399]), (0x1fc4, [0x389, 0x399]),
  (0x1fc6, [0x397, 0x342]), (0x1fc7, [0x397, 0x342, 0x399]), (0x1fcc, [0x397, 0x399]),
  (0x1fd0, [0x1fd8]), (0x1fd1, [0x1fd9]), (0x1fd2, [0x399, 0x308, 0x300]),
  (0x1fd3, [0x399, 0x308, 0x301]), (0x1fd6, [0x399, 0x342]), (0x1fd7, [0x399, 0x308, 0x342]),
  (0x1fe0, [0x1fe8]), (0x1fe1, [0x1fe9]), (0x1fe2, [0x3a5, 0x308, 0x300]),
  (0x1fe3, [0x3a5, 0x308, 0x301]), (0x1fe4, [0x3a1, 0x313]), (0x1fe5, [0x1fec]),
  (0x1fe6, [0x3a5, 0x342]), (0x1fe7, [0x3a5, 0x308, 0x342]), (0x1ff2, [0x1ffa, 0x399]),
  (0x1ff3, [0x3a9, 0x399]), (0x1ff4, [0x38f, 0x399]), (0x1ff6, [0x3a9, 0x342]),
  (0x1ff7, [0x3a9, 0x342, 0x399]), (0x1ffc, [0x3a9, 0x399]), (0x214e, [0x2132]),
  (0x2170, [0x2160]), (0x2171, [0x2161]), (0x2172, [0x2162]), (0x2173, [0x2163]),
  (0x2174, [0x2164]), (0x2175, [0x2165]), (0x2176, [0x2166]), (0x2177, [0x2167]),
  (0x2178, [0x2168]), (0x2179, [0x2169]), (0x217a, [0x216a]), (0x217b, [0x216b]),
  (0x217c, [0x216c]), (0x217d, [0x216d]), (0x217e, [0x216e]), (0x217f, [0x216f]),
  (0x2184, [0x2183]), (0x24d0, [0x24b6]), (0x24d1, [0x24b7]), (0x24d2, [0x24b8]),
  (0x24d3, [0x24b9]), (0x24d4, [0x24ba]), (0x24d5, [0x24bb]), (0x24d6, [0x24bc]),
  (0x24d7, [0x24bd]), (0x24d8, [0x24be]), (0x24d9, [0x24bf]), (0x24da, [0x24c0]),
  (0x24db, [0x24c1]), (0x24dc, [0x24c2]), (0x24dd, [0x24c3]), (0x24de, [0x24c4]),
  (0x24df, [0x24c5]), (0x24e0, [0x24c6]), (0x24e1, [0x24c7]), (0x24e2, [0x24c8]),
  (0x24e3, [0x24c9]), (0x24e4, [0x24ca]), (0x24e5, [0x24cb]), (0x24e6, [0x24cc]),
  (0x24e7, [0x24cd]), (0x24e8, [0x24ce]), (0x24e9, [0x24cf]), (0x2c30, [0x2c00]),
  (0x2c31, [0x2c01]), (0x2c32, [0x2c02]), (0x2c33, [0x2c03]), (0x2c34, [0x2c04]),
  (0x2c35, [0x2c05]), (0x2c36, [0x2c06]), (0x2c37, [0x2c07]), (0x2c38, [0x2c08]),
  (0x2c39, [0x2c09]), (0x2c3a, [0x2c0a]), (0x2c3b, [0x2c0b]), (0x2c3c, [0x2c0c]),
  (0x2c3d, [0x2c0d]), (0x2c3e, [0x2c0e]), (0x2c3f, [0x2c0f]), (0x2c40, [0x2c10]),
  (0x2c41, [0x2c11]), (0x2c42, [0x2c12]), (0x2c43, [0x2c13]), (0x2c44, [0x2c14]),
  (0x2c45, [0x2c15]), (0x2c46, [0x2c16]), (0x2c47, [0x2c17]), (0x2c48, [0x2c18]),
  (0x2c49, [0x2c19]), (0x2c4a, [0x2c1a]), (0x2c4b, [0x2c1b]), (0x2c4c, [0x2c1c]),
  (0x2c4d, [0x2c1d]), (0x2c4e, [0x2c1e]), (0x2c4f, [0x2c1f]), (0x2c50, [0x2c20]),
  (0x2c51, [0x2c21]), (0x2c52, [0x2c22]), (0x2c53, [0x2c23]), (0x2c54, [0x2c24]),
  (0x2c55, [0x2c25]), (0x2c56, [0x2c26]), (0x2c57, [0x2c27]), (0x2c58, [0x2c28]),
  (0x2c59, [0x2c29]), (0x2c5a, [0x2c2a]), (0x2c5b, [0x2c2b]), (0x2c5c, [0x2c2c]),
  (0x2c5d, [0x2c2d]), (0x2c5e, [0x2c2e]), (0x2c5f, [0x2c2f]), (0x2c61, [0x2c60]),
  (0x2c65, [0x23a]), (0x2c66, [0x23e]), (0x2c68, [0x2c67]), (0x2c6a, [0x2c69]),
  (0x2c6c, [0x2c6b]), (0x2c73, [0x2c72]), (0x2c76, [0x2c75]), (0x2c81, [0x2c80]),
  (0x2c83, [0x2c82]), (0x2c85, [0x2c84]), (0x2c87, [0x2c86]), (0x2c89, [0x2c88]),
  (0x2c8b, [0x2c8a]), (0x2c8d, [0x2c8c]), (0x2c8f, [0x2c8e]), (0x2c91, [0x2c90]),
  (0x2c93, [0x2c92]), (0x2c95, [0x2c94]), (0x2c97, [0x2c96]), (0x2c99, [0x2c98]),
  (0x2c9b, [0x2c9a]), (0x2c9d, [0x2c9c]), (0x2c9f, [0x2c9e]), (0x2ca1, [0x2ca0]),
  (0x2ca3, [0x2ca2]), (0x2ca5, [0x2ca4]), (0x2ca7, [0x2ca6]), (0x2ca9, [0x2ca8]),
  (0x2cab, [0x2caa]), (0x2cad, [0x2cac]), (0x2caf, [0x2cae]), (0x2cb1, [0x2cb0]),
  (0x2cb3, [0x2cb2]), (0x2cb5, [0x2cb4]), (0x2cb7, [0x2cb6]), (0x2cb9, [0x2cb8]),
  (0x2cbb, [0x2cba]), (0x2cbd, [0x2cbc]), (0x2cbf, [0x2cbe]), (0x2cc1, [0x2cc0]),
  (0x2cc3, [0x2cc2]), (0x2cc5, [0x2cc4]), (0x2cc7, [0x2cc6]), (0x2cc9, [0x2cc8]),
  (0x2ccb, [0x2cca]), (0x2ccd, [0x2ccc]), (0x2ccf, [0x2cce]), (0x2cd1, [0x2cd0]),
  (0x2cd3, [0x2cd2]), (0x2cd5, [0x2cd4]), (0x2cd7, [0x2cd6]), (0x2cd9, [0x2cd8]),
  (0x2cdb, [0x2cda]), (0x2cdd, [0x2cdc]), (0x2cdf, [0x2cde]), (0x2ce1, [0x2ce0]),
  (0x2ce3, [0x2ce2]), (0x2cec, [0x2ceb]), (0x2cee, [0x2ced]), (0x2cf3, [0x2cf2]),
  (0x2d00, [0x10a0]), (0x2d01, [0x10a1]), (0x2d02, [0x10a2]), (0x2d03, [0x10a3]),
  (0x2d04, [0x10a4]), (0x2d05, [0x10a5]), (0x2d06, [0x10a6]), (0x2d07, [0x10a7]),
  (0x2d08, [0x10a8]), (0x2d09, [0x10a9]), (0x2d0a, [0x10aa]), (0x2d0b, [0x10ab]),
  (0x2d0c, [0x10ac]), (0x2d0d, [0x10ad]), (0x2d0e, [0x10ae]), (0x2d0f, [0x10af]),
  (0x2d10, [0x10b0]), (0x2d11, [0x10b1]), (0x2d12, [0x10b2]), (0x2d13, [0x10b3]),
  (0x2d14, [0x10b4]), (0x2d15, [0x10b5]), (0x2d16, [0x10b6]), (0x2d17, [0x10b7]),
  (0x2d18, [0x10b8]), (0x2d19, [0x10b9]), (0x2d1a, [0x10ba]), (0x2d1b, [0x10bb]),
  (0x2d1c, [0x10bc]), (0x2d1d, [0x10bd]), (0x2d1e, [0x10be]), (0x2d1f, [0x10bf]),
  (0x2d20, [0x10c0]), (0x2d21, [0x10c1]), (0x2d22, [0x10c2]), (0x2d23, [0x10c3]),
  (0x2d24, [0x10c4]), (0x2d25, [0x10c5]), (0x2d27, [0x10c7]), (0x2d2d, [0x10cd]),
  (0xa641, [0xa640]), (0xa643, [0xa642]), (0xa645, [0xa644]), (0xa647, [0xa646]),
  (0xa649, [0xa648]), (0xa64b, [0xa64a]), (0xa64d, [0xa64c]), (0xa64f, [0xa64e]),
  (0xa651, [0xa650]), (0xa653, [0xa652]), (0xa655, [0xa654]), (0xa657, [0xa656]),
  (0xa659, [0xa658]), (0xa65b, [0xa65a]), (0xa65d, [0xa65c]), (0xa65f, [0xa65e]),
  (0xa661, [0xa660]), (0xa663, [0xa662]), (0xa665, [0xa664]), (0xa667, [0xa666]),
  (0xa669, [0xa668]), (0xa66b, [0xa66a]), (0xa66d, [0xa66c]), (0xa681, [0xa680]),
  (0xa683, [0xa682]), (0xa685, [0xa684]), (0xa687, [0xa686]), (0xa689, [0xa688]),
  (0xa68b, [0xa68a]), (0xa68d, [0xa68c]), (0xa68f, [0xa68e]), (0xa691, [0xa690]),
  (0xa693, [0xa692]), (0xa695, [0xa694]), (0xa697, [0xa696]), (0xa699, [0xa698]),
  (0xa69b, [0xa69a]), (0xa723, [0xa722]), (0xa725, [0xa724]), (0xa727, [0xa726]),
  (0xa729, [0xa728]), (0xa72b, [0xa72a]), (0xa72d, [0xa72c]), (0xa72f, [0xa72e]),
  (0xa733, [0xa732]), (0xa735, [0xa734]), (0xa737, [0xa736]), (0xa739, [0xa738]),
  (0xa73b, [0xa73a]), (0xa73d, [0xa73c]), (0xa73f, [0xa73e]), (0xa741, [0xa740]),
  (0xa743, [0xa742]), (0xa745, [0xa744]), (0xa747, [0xa746]), (0xa749, [0xa748]),
  (0xa74b, [0xa74a]), (0xa74d, [0xa74c]), (0xa74f, [0xa74e]), (0xa751, [0xa750]),
  (0xa753, [0xa752]), (0xa755, [0xa754]), (0xa757, [0xa756]), (0xa759, [0xa758]),
  (0xa75b, [0xa75a]), (0xa75d, [0xa75c]), (0xa75f, [0xa75e]), (0xa761, [0xa760]),
  (0xa763, [0xa762]), (0xa765, [0xa764]), (0xa767, [0xa766]), (0xa769, [0xa768]),
  (0xa76b, [0xa76a]), (0xa76d, [0xa76c]), (0xa76f, [0xa76e]), (0xa77a, [0xa779]),
  (0xa77c, [0xa77b]), (0xa77f, [0xa77e]), (0xa781, [0xa780]), (0xa783, [0xa782]),
  (0xa785, [0xa784]), (0xa787, [0xa786]), (0xa78c, [0xa78b]), (0xa791, [0xa790]),
  (0xa793, [0xa792]), (0xa794, [0xa7c4]), (0xa797, [0xa796]), (0xa799, [0xa798]),
  (0xa79b, [0xa79a]), (0xa79d, [0xa79c]), (0xa79f, [0xa79e]), (0xa7a1, [0xa7a0]),
  (0xa7a3, [0xa7a2]), (0xa7a5, [0xa7a4]), (0xa7a7, [0xa7a6]), (0xa7a9, [0xa7a8]),
  (0xa7b5, [0xa7b4]), (0xa7b7, [0xa7b6]), (0xa7b9, [0xa7b8]), (0xa7bb, [0xa7ba]),
  (0xa7bd, [0xa7bc]), (0xa7bf, [0xa7be]), (0xa7c1, [0xa7c0]), (0xa7c3, [0xa7c2]),
  (0xa7c8, [0xa7c7]), (0xa7ca, [0xa7c9]), (0xa7d1, [0xa7d0]), (0xa7d7, [0xa7d6]),
  (0xa7d9, [0xa7d8]), (0xa7f6, [0xa7f5]), (0xab53, [0xa7b3]), (0xab70, [0x13a0]),
  (0xab71, [0x13a1]), (0xab72, [0x13a2]), (0xab73, [0x13a3]), (0xab74, [0x13a4]),
  (0xab75, [0x13a5]), (0xab76, [0x13a6]), (0xab77, [0x13a7]), (0xab78, [0x13a8]),
  (0xab79, [0x13a9]), (0xab7a, [0x13aa]), (0xab7b, [0x13ab]), (0xab7c, [0x13ac]),
  (0xab7d, [0x13ad]), (0xab7e, [0x13ae]), (0xab7f, [0x13af]), (0xab80, [0x13b0]),
  (0xab81, [0x13b1]), (0xab82, [0x13b2]), (0xab83, [0x13b3]), (0xab84, [0x13b4]),
  (0xab85, [0x13b5]), (0xab86, [0x13b6]), (0xab87, [0x13b7]), (0xab88, [0x13b8]),
  (0xab89, [0x13b9]), (0xab8a, [0x13ba]), (0xab8b, [0x13bb]), (0xab8c, [0x13bc]),
  (0xab8d, [0x13bd]), (0xab8e, [0x13be]), (0xab8f, [0x13bf]), (0xab90, [0x13c0]),
  (0xab91, [0x13c1]), (0xab92, [0x13c2]), (0xab93, [0x13c3]), (0xab94, [0x13c4]),
  (0xab95, [0x13c5]), (0xab96, [0x13c6]), (0xab97, [0x13c7]), (0xab98, [0x13c8]),
  (0xab99, [0x13c9]), (0xab9a, [0x13ca]), (0xab9b, [0x13cb]), (0xab9c, [0x13cc]),
  (0xab9d, [0x13cd]), (0xab9e, [0x13ce]), (0xab9f, [0x13cf]), (0xaba0, [0x13d0]),
  (0xaba1, [0x13d1]), (0xaba2, [0x13d2]), (0xaba3, [0x13d3]), (0xaba4, [0x13d4]),
  (0xaba5, [0x13d5]), (0xaba6, [0x13d6]), (0xaba7, [0x13d7]), (0xaba8, [0x13d8]),
  (0xaba9, [0x13d9]), (0xabaa, [0x13da]), (0xabab, [0x13db]), (0xabac, [0x13dc]),
  (0xabad, [0x13dd]), (0xabae, [0x13de]), (0xabaf, [0x13df]), (0xabb0, [0x13e0]),
  (0xabb1, [0x13e1]), (0xabb2, [0x13e2]), (0xabb3, [0x13e3]), (0xabb4, [0x13e4]),
  (0xabb5, [0x13e5]), (0xabb6, [0x13e6]), (0xabb7, [0x13e7]), (0xabb8, [0x13e8]),
  (0xabb9, [0x13e9]), (0xabba, [0x13ea]), (0xabbb, [0x13eb]), (0xabbc, [0x13ec]),
  (0xabbd, [0x13ed]), (0xabbe, [0x13ee]), (0xabbf, [0x13ef]), (0xfb00, [0x46, 0x46]),
  (0xfb01, [0x46, 0x49]), (0xfb02, [0x46, 0x4c]), (0xfb03, [0x46, 0x46, 0x49]),
  (0xfb04, [0x46, 0x46, 0x4c]), (0xfb05, [0x53, 0x54]), (0xfb06, [0x53, 0x54]),
  (0xfb13, [0x544, 0x546]), (0xfb14, [0x544, 0x535]), (0xfb15, [0x544, 0x53b]),
  (0xfb16, [0x54e, 0x546]), (0xfb17, [0x544, 0x53d]), (0xff41, [0xff21]), (0xff42, [0xff22]),
  (0xff43, [0xff23]), (0xff44, [0xff24]), (0xff45, [0xff25]), (0xff46, [0xff26]),
  (0xff47, [0xff27]), (0xff48, [0xff28]), (0xff49, [0xff29]), (0xff4a, [0xff2a]),
  (0xff4b, [0xff2b]), (0xff4c, [0xff2c]), (0xff4d, [0xff2d]), (0xff4e, [0xff2e]),
  (0xff4f, [0xff2f]), (0xff50, [0xff30]), (0xff51, [0xff31]), (0xff52, [0xff32]),
  (0xff53, [0xff33]), (0xff54, [0xff34]), (0xff55, [0xff35]), (0xff56, [0xff36]),
  (0xff57, [0xff37]), (0xff58, [0xff38]), (0xff59, [0xff39]), (0xff5a, [0xff3a]),
  (0x10428, [0x10400]), (0x10429, [0x10401]), (0x1042a, [0x10402]), (0x1042b, [0x10403]),
  (0x1042c, [0x10404]), (0x1042d, [0x10405]), (0x1042e, [0x10406]), (0x1042f, [0x10407]),
  (0x10430, [0x10408]), (0x10431, [0x10409]), (0x10432, [0x1040a]), (0x10433, [0x1040b]),
  (0x10434, [0x1040c]), (0x10435, [0x1040d]), (0x10436, [0x1040e]), (0x10437, [0x1040f]),
  (0x10438, [0x10410]), (0x10439, [0x10411]), (0x1043a, [0x10412]), (0x1043b, [0x10413]),
  (0x1043c, [0x10414]), (0x1043d, [0x10415]), (0x1043e, [0x10416]), (0x1043f, [0x10417]),
  (0x10440, [0x10418]), (0x10441, [0x10419]), (0x10442, [0x1041a]), (0x10443, [0x1041b]),
  (0x10444, [0x1041c]), (0x10445, [0x1041d]), (0x10446, [0x1041e]), (0x10447, [0x1041f]),
  (0x10448, [0x10420]), (0x10449, [0x10421]), (0x1044a, [0x10422]), (0x1044b, [0x10423]),
  (0x1044c, [0x10424]), (0x1044d, [0x10425]), (0x1044e, [0x10426]), (0x1044f, [0x10427]),
  (0x104d8, [0x104b0]), (0x104d9, [0x104b1]), (0x104da, [0x104b2]), (0x104db, [0x104b3]),
  (0x104dc, [0x104b4]), (0x104dd, [0x104b5]), (0x104de, [0x104b6]), (0x104df, [0x104b7]),
  (0x104e0, [0x104b8]), (0x104e1, [0x104b9]), (0x104e2, [0x104ba]), (0x104e3, [0x104bb]),
  (0x104e4, [0x104bc]), (0x104e5, [0x104bd]), (0x104e6, [0x104be]), (0x104e7, [0x104bf]),
  (0x104e8, [0x104c0]), (0x104e9, [0x104c1]), (0x104ea, [0x104c2]), (0x104eb, [0x104c3]),
  (0x104ec, [0x104c4]), (0x104ed, [0x104c5]), (0x104ee, [0x104c6]), (0x104ef, [0x104c7]),
  (0x104f0, [0x104c8]), (0x104f1, [0x104c9]), (0x104f2, [0x104ca]), (0x104f3, [0x104cb]),
  (0x104f4, [0x104cc]), (0x104f5, [0x104cd]), (0x104f6, [0x104ce]), (0x104f7, [0x104cf]),
  (0x104f8, [0x104d0]), (0x104f9, [0x104d1]), (0x104fa, [0x104d2]), (0x104fb, [0x104d3]),
  (0x10597, [0x10570]), (0x10598, [0x10571]), (0x10599, [0x10572]), (0x1059a, [0x10573]),
  (0x1059b, [0x10574]), (0x1059c, [0x10575]), (0x1059d, [0x10576]), (0x1059e, [0x10577]),
  (0x1059f, [0x10578]), (0x105a0, [0x10579]), (0x105a1, [0x1057a]), (0x105a3, [0x1057c]),
  (0x105a4, [0x1057d]), (0x105a5, [0x1057e]), (0x105a6, [0x1057f]), (0x105a7, [0x10580]),
  (0x105a8, [0x10581]), (0x105a9, [0x10582]), (0x105aa, [0x10583]), (0x105ab, [0x10584]),
  (0x105ac, [0x10585]), (0x105ad, [0x10586]), (0x105ae, [0x10587]), (0x105af, [0x10588]),
  (0x105b0, [0x10589]), (0x105b1, [0x1058a]), (0x105b3, [0x1058c]), (0x105b4, [0x1058d]),
  (0x105b5, [0x1058e]), (0x105b6, [0x1058f]), (0x105b7, [0x10590]), (0x105b8, [0x10591]),
  (0x105b9, [0x10592]), (0x105bb, [0x10594]), (0x105bc, [0x10595]), (0x10cc0, [0x10c80]),
  (0x10cc1, [0x10c81]), (0x10cc2, [0x10c82]), (0x10cc3, [0x10c83]), (0x10cc4, [0x10c84]),
  (0x10cc5, [0x10c85]), (0x10cc6, [0x10c86]), (0x10cc7, [0x10c87]), (0x10cc8, [0x10c88]),
  (0x10cc9, [0x10c89]), (0x10cca, [0x10c8a]), (0x10ccb, [0x10c8b]), (0x10ccc, [0x10c8c]),
  (0x10ccd, [0x10c8d]), (0x10cce, [0x10c8e]), (0x10ccf, [0x10c8f]), (0x10cd0, [0x10c90]),
  (0x10cd1, [0x10c91]), (0x10cd2, [0x10c92]), (0x10cd3, [0x10c93]), (0x10cd4, [0x10c94]),
  (0x10cd5, [0x10c95]), (0x10cd6, [0x10c96]), (0x10cd7, [0x10c97]), (0x10cd8, [0x10c98]),
  (0x10cd9, [0x10c99]), (0x10cda, [0x10c9a]), (0x10cdb, [0x10c9b]), (0x10cdc, [0x10c9c]),
  (0x10cdd, [0x10c9d]), (0x10cde, [0x10c9e]), (0x10cdf, [0x10c9f]), (0x10ce0, [0x10ca0]),
  (0x10ce1, [0x10ca1]), (0x10ce2, [0x10ca2]), (0x10ce3, [0x10ca3]), (0x10ce4, [0x10ca4]),
  (0x10ce5, [0x10ca5]), (0x10ce6, [0x10ca6]), (0x10ce7, [0x10ca7]), (0x10ce8, [0x10ca8]),
  (0x10ce9, [0x10ca9]), (0x10cea, [0x10caa]), (0x10ceb, [0x10cab]), (0x10cec, [0x10cac]),
  (0x10ced, [0x10cad]), (0x10cee, [0x10cae]), (0x10cef, [0x10caf]), (0x10cf0, [0x10cb0]),
  (0x10cf1, [0x10cb1]), (0x10cf2, [0x10cb2]), (0x118c0, [0x118a0]), (0x118c1, [0x118a1]),
  (0x118c2, [0x118a2]), (0x118c3, [0x118a3]), (0x118c4, [0x118a4]), (0x118c5, [0x118a5]),
  (0x118c6, [0x118a6]), (0x118c7, [0x118a7]), (0x118c8, [0x118a8]), (0x118c9, [0x118a9]),
  (0x118ca, [0x118aa]), (0x118cb, [0x118ab]), (0x118cc, [0x118ac]), (0x118cd, [0x118ad]),
  (0x118ce, [0x118ae]), (0x118cf, [0x118af]), (0x118d0, [0x118b0]), (0x118d1, [0x118b1]),
  (0x118d2, [0x118b2]), (0x118d3, [0x118b3]), (0x118d4, [0x118b4]), (0x118d5, [0x118b5]),
  (0x118d6, [0x118b6]), (0x118d7, [0x118b7]), (0x118d8, [0x118b8]), (0x118d9, [0x118b9]),
  (0x118da, [0x118ba]), (0x118db, [0x118bb]), (0x118dc, [0x118bc]), (0x118dd, [0x118bd]),
  (0x118de, [0x118be]), (0x118df, [0x118bf]), (0x16e60, [0x16e40]), (0x16e61, [0x16e41]),
  (0x16e62, [0x16e42]), (0x16e63, [0x16e43]), (0x16e64, [0x16e44]), (0x16e65, [0x16e45]),
  (0x16e66, [0x16e46]), (0x16e67, [0x16e47]), (0x16e68, [0x16e48]), (0x16e69, [0x16e49]),
  (0x16e6a, [0x16e4a]), (0x16e6b, [0x16e4b]), (0x16e6c, [0x16e4c]), (0x16e6d, [0x16e4d]),
  (0x16e6e, [0x16e4e]), (0x16e6f, [0x16e4f]), (0x16e70, [0x16e50]), (0x16e71, [0x16e51]),
  (0x16e72, [0x16e52]), (0x16e73, [0x16e53]), (0x16e74, [0x16e54]), (0x16e75, [0x16e55]),
  (0x16e76, [0x16e56]), (0x16e77, [0x16e57]), (0x16e78, [0x16e58]), (0x16e79, [0x16e59]),
  (0x16e7a, [0x16e5a]), (0x16e7b, [0x16e5b]), (0x16e7c, [0x16e5c]), (0x16e7d, [0x16e5d]),
  (0x16e7e, [0x16e5e]), (0x16e7f, [0x16e5f]), (0x1e922, [0x1e900]), (0x1e923, [0x1e901]),
  (0x1e924, [0x1e902]), (0x1e925, [0x1e903]), (0x1e926, [0x1e904]), (0x1e927, [0x1e905]),
  (0x1e928, [0x1e906]), (0x1e929, [0x1e907]), (0x1e92a, [0x1e908]), (0x1e92b, [0x1e909]),
  (0x1e92c, [0x1e90a]), (0x1e92d, [0x1e90b]), (0x1e92e, [0x1e90c]), (0x1e92f, [0x1e90d]),
  (0x1e930, [0x1e90e]), (0x1e931, [0x1e90f]), (0x1e932, [0x1e910]), (0x1e933, [0x1e911]),
  (0x1e934, [0x1e912]), (0x1e935, [0x1e913]), (0x1e936, [0x1e914]), (0x1e937, [0x1e915]),
  (0x1e938, [0x1e916]), (0x1e939, [0x1e917]), (0x1e93a, [0x1e918]), (0x1e93b, [0x1e919]),
  (0x1e93c, [0x1e91a]), (0x1e93d, [0x1e91b]), (0x1e93e, [0x1e91c]), (0x1e93f, [0x1e91d]),
  (0x1e940, [0x1e91e]), (0x1e941, [0x1e91f]), (0x1e942, [0x1e920]), (0x1e943, [0x1e921])]

/-- Full lower-case mappings. -/
def lower : CaseTable := .ofText "
  41:61 42:62 43:63 44:64 45:65 46:66 47:67 48:68 49:69 4a:6a 4b:6b 4c:6c 4d:6d 4e:6e 4f:6f
  50:70 51:71 52:72 53:73 54:74 55:75 56:76 57:77 58:78 59:79 5a:7a c0:e0 c1:e1 c2:e2 c3:e3
  c4:e4 c5:e5 c6:e6 c7:e7 c8:e8 c9:e9 ca:ea cb:eb cc:ec cd:ed ce:ee cf:ef d0:f0 d1:f1 d2:f2
  d3:f3 d4:f4 d5:f5 d6:f6 d8:f8 d9:f9 da:fa db:fb dc:fc dd:fd de:fe 100:101 102:103 104:105
  106:107 108:109 10a:10b 10c:10d 10e:10f 110:111 112:113 114:115 116:117 118:119 11a:11b
  11c:11d 11e:11f 120:121 122:123 124:125 126:127 128:129 12a:12b 12c:12d 12e:12f 130:69+307
  132:133 134:135 136:137 139:13a 13b:13c 13d:13e 13f:140 141:142 143:144 145:146 147:148
  14a:14b 14c:14d 14e:14f 150:151 152:153 154:155 156:157 158:159 15a:15b 15c:15d 15e:15f
  160:161 162:163 164:165 166:167 168:169 16a:16b 16c:16d 16e:16f 170:171 172:173 174:175
  176:177 178:ff 179:17a 17b:17c 17d:17e 181:253 182:183 184:185 186:254 187:188 189:256
  18a:257 18b:18c 18e:1dd 18f:259 190:25b 191:192 193:260 194:263 196:269 197:268 198:199
  19c:26f 19d:272 19f:275 1a0:1a1 1a2:1a3 1a4:1a5 1a6:280 1a7:1a8 1a9:283 1ac:1ad 1ae:288
  1af:1b0 1b1:28a 1b2:28b 1b3:1b4 1b5:1b6 1b7:292 1b8:1b9 1bc:1bd 1c4:1c6 1c5:1c6 1c7:1c9
  1c8:1c9 1ca:1cc 1cb:1cc 1cd:1ce 1cf:1d0 1d1:1d2 1d3:1d4 1d5:1d6 1d7:1d8 1d9:1da 1db:1dc
  1de:1df 1e0:1e1 1e2:1e3 1e4:1e5 1e6:1e7 1e8:1e9 1ea:1eb 1ec:1ed 1ee:1ef 1f1:1f3 1f2:1f3
  1f4:1f5 1f6:195 1f7:1bf 1f8:1f9 1fa:1fb 1fc:1fd 1fe:1ff 200:201 202:203 204:205 206:207
  208:209 20a:20b 20c:20d 20e:20f 210:211 212:213 214:215 216:217 218:219 21a:21b 21c:21d
  21e:21f 220:19e 222:223 224:225 226:227 228:229 22a:22b 22c:22d 22e:22f 230:231 232:233
  23a:2c65 23b:23c 23d:19a 23e:2c66 241:242 243:180 244:289 245:28c 246:247 248:249 24a:24b
  24c:24d 24e:24f 370:371 372:373 376:377 37f:3f3 386:3ac 388:3ad 389:3ae 38a:3af 38c:3cc
  38e:3cd 38f:3ce 391:3b1 392:3b2 393:3b3 394:3b4 395:3b5 396:3b6 397:3b7 398:3b8 399:3b9
  39a:3ba 39b:3bb 39c:3bc 39d:3bd 39e:3be 39f:3bf 3a0:3c0 3a1:3c1 3a3:3c3 3a4:3c4 3a5:3c5
  3a6:3c6 3a7:3c7 3a8:3c8 3a9:3c9 3aa:3ca 3ab:3cb 3cf:3d7 3d8:3d9 3da:3db 3dc:3dd 3de:3df
  3e0:3e1 3e2:3e3 3e4:3e5 3e6:3e7 3e8:3e9 3ea:3eb 3ec:3ed 3ee:3ef 3f4:3b8 3f7:3f8 3f9:3f2
  3fa:3fb 3fd:37b 3fe:37c 3ff:37d 400:450 401:451 402:452 403:453 404:454 405:455 406:456
  407:457 408:458 409:459 40a:45a 40b:45b 40c:45c 40d:45d 40e:45e 40f:45f 410:430 411:431
  412:432 413:433 414:434 415:435 416:436 417:437 418:438 419:439 41a:43a 41b:43b 41c:43c
  41d:43d 41e:43e 41f:43f 420:440 421:441 422:442 423:443 424:444 425:445 426:446 427:447
  428:448 429:449 42a:44a 42b:44b 42c:44c 42d:44d 42e:44e 42f:44f 460:461 462:463 464:465
  466:467 468:469 46a:46b 46c:46d 46e:46f 470:471 472:473 474:475 476:477 478:479 47a:47b
  47c:47d 47e:47f 480:481 48a:48b 48c:48d 48e:48f 490:491 492:493 494:495 496:497 498:499
  49a:49b 49c:49d 49e:49f 4a0:4a1 4a2:4a3 4a4:4a5 4a6:4a7 4a8:4a9 4aa:4ab 4ac:4ad 4ae:4af
  4b0:4b1 4b2:4b3 4b4:4b5 4b6:4b7 4b8:4b9 4ba:4bb 4bc:4bd 4be:4bf 4c0:4cf 4c1:4c2 4c3:4c4
  4c5:4c6 4c7:4c8 4c9:4ca 4cb:4cc 4cd:4ce 4d0:4d1 4d2:4d3 4d4:4d5 4d6:4d7 4d8:4d9 4da:4db
  4dc:4dd 4de:4df 4e0:4e1 4e2:4e3 4e4:4e5 4e6:4e7 4e8:4e9 4ea:4eb 4ec:4ed 4ee:4ef 4f0:4f1
  4f2:4f3 4f4:4f5 4f6:4f7 4f8:4f9 4fa:4fb 4fc:4fd 4fe:4ff 500:501 502:503 504:505 506:507
  508:509 50a:50b 50c:50d 50e:50f 510:511 512:513 514:515 516:517 518:519 51a:51b 51c:51d
  51e:51f 520:521 522:523 524:525 526:527 528:529 52a:52b 52c:52d 52e:52f 531:561 532:562
  533:563 534:564 535:565 536:566 537:567 538:568 539:569 53a:56a 53b:56b 53c:56c 53d:56d
  53e:56e 53f:56f 540:570 541:571 542:572 543:573 544:574 545:575 546:576 547:577 548:578
  549:579 54a:57a 54b:57b 54c:57c 54d:57d 54e:57e 54f:57f 550:580 551:581 552:582 553:583
  554:584 555:585 556:586 10a0:2d00 10a1:2d01 10a2:2d02 10a3:2d03 10a4:2d04 10a5:2d05
  10a6:2d06 10a7:2d07 10a8:2d08 10a9:2d09 10aa:2d0a 10ab:2d0b 10ac:2d0c 10ad:2d0d 10ae:2d0e
  10af:2d0f 10b0:2d10 10b1:2d11 10b2:2d12 10b3:2d13 10b4:2d14 10b5:2d15 10b6:2d16 10b7:2d17
  10b8:2d18 10b9:2d19 10ba:2d1a 10bb:2d1b 10bc:2d1c 10bd:2d1d 10be:2d1e 10bf:2d1f 10c0:2d20
  10c1:2d21 10c2:2d22 10c3:2d23 10c4:2d24 10c5:2d25 10c7:2d27 10cd:2d2d 13a0:ab70 13a1:ab71
  13a2:ab72 13a3:ab73 13a4:ab74 13a5:ab75 13a6:ab76 13a7:ab77 13a8:ab78 13a9:ab79 13aa:ab7a
  13ab:ab7b 13ac:ab7c 13ad:ab7d 13ae:ab7e 13af:ab7f 13b0:ab80 13b1:ab81 13b2:ab82 13b3:ab83
  13b4:ab84 13b5:ab85 13b6:ab86 13b7:ab87 13b8:ab88 13b9:ab89 13ba:ab8a 13bb:ab8b 13bc:ab8c
  13bd:ab8d 13be:ab8e 13bf:ab8f 13c0:ab90 13c1:ab91 13c2:ab92 13c3:ab93 13c4:ab94 13c5:ab95
  13c6:ab96 13c7:ab97 13c8:ab98 13c9:ab99 13ca:ab9a 13cb:ab9b 13cc:ab9c 13cd:ab9d 13ce:ab9e
  13cf:ab9f 13d0:aba0 13d1:aba1 13d2:aba2 13d3:aba3 13d4:aba4 13d5:aba5 13d6:aba6 13d7:aba7
  13d8:aba8 13d9:aba9 13da:abaa 13db:abab 13dc:abac 13dd:abad 13de:abae 13df:abaf 13e0:abb0
  13e1:abb1 13e2:abb2 13e3:abb3 13e4:abb4 13e5:abb5 13e6:abb6 13e7:abb7 13e8:abb8 13e9:abb9
  13ea:abba 13eb:abbb 13ec:abbc 13ed:abbd 13ee:abbe 13ef:abbf 13f0:13f8 13f1:13f9 13f2:13fa
  13f3:13fb 13f4:13fc 13f5:13fd 1c90:10d0 1c91:10d1 1c92:10d2 1c93:10d3 1c94:10d4 1c95:10d5
  1c96:10d6 1c97:10d7 1c98:10d8 1c99:10d9 1c9a:10da 1c9b:10db 1c9c:10dc 1c9d:10dd 1c9e:10de
  1c9f:10df 1ca0:10e0 1ca1:10e1 1ca2:10e2 1ca3:10e3 1ca4:10e4 1ca5:10e5 1ca6:10e6 1ca7:10e7
  1ca8:10e8 1ca9:10e9 1caa:10ea 1cab:10eb 1cac:10ec 1cad:10ed 1cae:10ee 1caf:10ef 1cb0:10f0
  1cb1:10f1 1cb2:10f2 1cb3:10f3 1cb4:10f4 1cb5:10f5 1cb6:10f6 1cb7:10f7 1cb8:10f8 1cb9:10f9
  1cba:10fa 1cbd:10fd 1cbe:10fe 1cbf:10ff 1e00:1e01 1e02:1e03 1e04:1e05 1e06:1e07 1e08:1e09
  1e0a:1e0b 1e0c:1e0d 1e0e:1e0f 1e10:1e11 1e12:1e13 1e14:1e15 1e16:1e17 1e18:1e19 1e1a:1e1b
  1e1c:1e1d 1e1e:1e1f 1e20:1e21 1e22:1e23 1e24:1e25 1e26:1e27 1e28:1e29 1e2a:1e2b 1e2c:1e2d
  1e2e:1e2f 1e30:1e31 1e32:1e33 1e34:1e35 1e36:1e37 1e38:1e39 1e3a:1e3b 1e3c:1e3d 1e3e:1e3f
  1e40:1e41 1e42:1e43 1e44:1e45 1e46:1e47 1e48:1e49 1e4a:1e4b 1e4c:1e4d 1e4e:1e4f 1e50:1e51
  1e52:1e53 1e54:1e55 1e56:1e57 1e58:1e59 1e5a:1e5b 1e5c:1e5d 1e5e:1e5f 1e60:1e61 1e62:1e63
  1e64:1e65 1e66:1e67 1e68:1e69 1e6a:1e6b 1e6c:1e6d 1e6e:1e6f 1e70:1e71 1e72:1e73 1e74:1e75
  1e76:1e77 1e78:1e79 1e7a:1e7b 1e7c:1e7d 1e7e:1e7f 1e80:1e81 1e82:1e83 1e84:1e85 1e86:1e87
  1e88:1e89 1e8a:1e8b 1e8c:1e8d 1e8e:1e8f 1e90:1e91 1e92:1e93 1e94:1e95 1e9e:df 1ea0:1ea1
  1ea2:1ea3 1ea4:1ea5 1ea6:1ea7 1ea8:1ea9 1eaa:1eab 1eac:1ead 1eae:1eaf 1eb0:1eb1 1eb2:1eb3
  1eb4:1eb5 1eb6:1eb7 1eb8:1eb9 1eba:1ebb 1ebc:1ebd 1ebe:1ebf 1ec0:1ec1 1ec2:1ec3 1ec4:1ec5
  1ec6:1ec7 1ec8:1ec9 1eca:1ecb 1ecc:1ecd 1ece:1ecf 1ed0:1ed1 1ed2:1ed3 1ed4:1ed5 1ed6:1ed7
  1ed8:1ed9 1eda:1edb 1edc:1edd 1ede:1edf 1ee0:1ee1 1ee2:1ee3 1ee4:1ee5 1ee6:1ee7 1ee8:1ee9
  1eea:1eeb 1eec:1eed 1eee:1eef 1ef0:1ef1 1ef2:1ef3 1ef4:1ef5 1ef6:1ef7 1ef8:1ef9 1efa:1efb
  1efc:1efd 1efe:1eff 1f08:1f00 1f09:1f01 1f0a:1f02 1f0b:1f03 1f0c:1f04 1f0d:1f05 1f0e:1f06
  1f0f:1f07 1f18:1f10 1f19:1f11 1f1a:1f12 1f1b:1f13 1f1c:1f14 1f1d:1f15 1f28:1f20 1f29:1f21
  1f2a:1f22 1f2b:1f23 1f2c:1f24 1f2d:1f25 1f2e:1f26 1f2f:1f27 1f38:1f30 1f39:1f31 1f3a:1f32
  1f3b:1f33 1f3c:1f34 1f3d:1f35 1f3e:1f36 1f3f:1f37 1f48:1f40 1f49:1f41 1f4a:1f42 1f4b:1f43
  1f4c:1f44 1f4d:1f45 1f59:1f51 1f5b:1f53 1f5d:1f55 1f5f:1f57 1f68:1f60 1f69:1f61 1f6a:1f62
  1f6b:1f63 1f6c:1f64 1f6d:1f65 1f6e:1f66 1f6f:1f67 1f88:1f80 1f89:1f81 1f8a:1f82 1f8b:1f83
  1f8c:1f84 1f8d:1f85 1f8e:1f86 1f8f:1f87 1f98:1f90 1f99:1f91 1f9a:1f92 1f9b:1f93 1f9c:1f94
  1f9d:1f95 1f9e:1f96 1f9f:1f97 1fa8:1fa0 1fa9:1fa1 1faa:1fa2 1fab:1fa3 1fac:1fa4 1fad:1fa5
  1fae:1fa6 1faf:1fa7 1fb8:1fb0 1fb9:1fb1 1fba:1f70 1fbb:1f71 1fbc:1fb3 1fc8:1f72 1fc9:1f73
  1fca:1f74 1fcb:1f75 1fcc:1fc3 1fd8:1fd0 1fd9:1fd1 1fda:1f76 1fdb:1f77 1fe8:1fe0 1fe9:1fe1
  1fea:1f7a 1feb:1f7b 1fec:1fe5 1ff8:1f78 1ff9:1f79 1ffa:1f7c 1ffb:1f7d 1ffc:1ff3 2126:3c9
  212a:6b 212b:e5 2132:214e 2160:2170 2161:2171 2162:2172 2163:2173 2164:2174 2165:2175
  2166:2176 2167:2177 2168:2178 2169:2179 216a:217a 216b:217b 216c:217c 216d:217d 216e:217e
  216f:217f 2183:2184 24b6:24d0 24b7:24d1 24b8:24d2 24b9:24d3 24ba:24d4 24bb:24d5 24bc:24d6
  24bd:24d7 24be:24d8 24bf:24d9 24c0:24da 24c1:24db 24c2:24dc 24c3:24dd 24c4:24de 24c5:24df
  24c6:24e0 24c7:24e1 24c8:24e2 24c9:24e3 24ca:24e4 24cb:24e5 24cc:24e6 24cd:24e7 24ce:24e8
  24cf:24e9 2c00:2c30 2c01:2c31 2c02:2c32 2c03:2c33 2c04:2c34 2c05:2c35 2c06:2c36 2c07:2c37
  2c08:2c38 2c09:2c39 2c0a:2c3a 2c0b:2c3b 2c0c:2c3c 2c0d:2c3d 2c0e:2c3e 2c0f:2c3f 2c10:2c40
  2c11:2c41 2c12:2c42 2c13:2c43 2c14:2c44 2c15:2c45 2c16:2c46 2c17:2c47 2c18:2c48 2c19:2c49
  2c1a:2c4a 2c1b:2c4b 2c1c:2c4c 2c1d:2c4d 2c1e:2c4e 2c1f:2c4f 2c20:2c50 2c21:2c51 2c22:2c52
  2c23:2c53 2c24:2c54 2c25:2c55 2c26:2c56 2c27:2c57 2c28:2c58 2c29:2c59 2c2a:2c5a 2c2b:2c5b
  2c2c:2c5c 2c2d:2c5d 2c2e:2c5e 2c2f:2c5f 2c60:2c61 2c62:26b 2c63:1d7d 2c64:27d 2c67:2c68
  2c69:2c6a 2c6b:2c6c 2c6d:251 2c6e:271 2c6f:250 2c70:252 2c72:2c73 2c75:2c76 2c7e:23f
  2c7f:240 2c80:2c81 2c82:2c83 2c84:2c85 2c86:2c87 2c88:2c89 2c8a:2c8b 2c8c:2c8d 2c8e:2c8f
  2c90:2c91 2c92:2c93 2c94:2c95 2c96:2c97 2c98:2c99 2c9a:2c9b 2c9c:2c9d 2c9e:2c9f 2ca0:2ca1
  2ca2:2ca3 2ca4:2ca5 2ca6:2ca7 2ca8:2ca9 2caa:2cab 2cac:2cad 2cae:2caf 2cb0:2cb1 2cb2:2cb3
  2cb4:2cb5 2cb6:2cb7 2cb8:2cb9 2cba:2cbb 2cbc:2cbd 2cbe:2cbf 2cc0:2cc1 2cc2:2cc3 2cc4:2cc5
  2cc6:2cc7 2cc8:2cc9 2cca:2ccb 2ccc:2ccd 2cce:2ccf 2cd0:2cd1 2cd2:2cd3 2cd4:2cd5 2cd6:2cd7
  2cd8:2cd9 2cda:2cdb 2cdc:2cdd 2cde:2cdf 2ce0:2ce1 2ce2:2ce3 2ceb:2cec 2ced:2cee 2cf2:2cf3
  a640:a641 a642:a643 a644:a645 a646:a647 a648:a649 a64a:a64b a64c:a64d a64e:a64f a650:a651
  a652:a653 a654:a655 a656:a657 a658:a659 a65a:a65b a65c:a65d a65e:a65f a660:a661 a662:a663
  a664:a665 a666:a667 a668:a669 a66a:a66b a66c:a66d a680:a681 a682:a683 a684:a685 a686:a687
  a688:a689 a68a:a68b a68c:a68d a68e:a68f a690:a691 a692:a693 a694:a695 a696:a697 a698:a699
  a69a:a69b a722:a723 a724:a725 a726:a727 a728:a729 a72a:a72b a72c:a72d a72e:a72f a732:a733
  a734:a735 a736:a737 a738:a739 a73a:a73b a73c:a73d a73e:a73f a740:a741 a742:a743 a744:a745
  a746:a747 a748:a749 a74a:a74b a74c:a74d a74e:a74f a750:a751 a752:a753 a754:a755 a756:a757
  a758:a759 a75a:a75b a75c:a75d a75e:a75f a760:a761 a762:a763 a764:a765 a766:a767 a768:a769
  a76a:a76b a76c:a76d a76e:a76f a779:a77a a77b:a77c a77d:1d79 a77e:a77f a780:a781 a782:a783
  a784:a785 a786:a787 a78b:a78c a78d:265 a790:a791 a792:a793 a796:a797 a798:a799 a79a:a79b
  a79c:a79d a79e:a79f a7a0:a7a1 a7a2:a7a3 a7a4:a7a5 a7a6:a7a7 a7a8:a7a9 a7aa:266 a7ab:25c
  a7ac:261 a7ad:26c a7ae:26a a7b0:29e a7b1:287 a7b2:29d a7b3:ab53 a7b4:a7b5 a7b6:a7b7
  a7b8:a7b9 a7ba:a7bb a7bc:a7bd a7be:a7bf a7c0:a7c1 a7c2:a7c3 a7c4:a794 a7c5:282 a7c6:1d8e
  a7c7:a7c8 a7c9:a7ca a7d0:a7d1 a7d6:a7d7 a7d8:a7d9 a7f5:a7f6 ff21:ff41 ff22:ff42 ff23:ff43
  ff24:ff44 ff25:ff45 ff26:ff46 ff27:ff47 ff28:ff48 ff29:ff49 ff2a:ff4a ff2b:ff4b ff2c:ff4c
  ff2d:ff4d ff2e:ff4e ff2f:ff4f ff30:ff50 ff31:ff51 ff32:ff52 ff33:ff53 ff34:ff54 ff35:ff55
  ff36:ff56 ff37:ff57 ff38:ff58 ff39:ff59 ff3a:ff5a 10400:10428 10401:10429 10402:1042a
  10403:1042b 10404:1042c 10405:1042d 10406:1042e 10407:1042f 10408:10430 10409:10431
  1040a:10432 1040b:10433 1040c:10434 1040d:10435 1040e:10436 1040f:10437 10410:10438
  10411:10439 10412:1043a 10413:1043b 10414:1043c 10415:1043d 10416:1043e 10417:1043f
  10418:10440 10419:10441 1041a:10442 1041b:10443 1041c:10444 1041d:10445 1041e:10446
  1041f:10447 10420:10448 10421:10449 10422:1044a 10423:1044b 10424:1044c 10425:1044d
  10426:1044e 10427:1044f 104b0:104d8 104b1:104d9 104b2:104da 104b3:104db 104b4:104dc
  104b5:104dd 104b6:104de 104b7:104df 104b8:104e0 104b9:104e1 104ba:104e2 104bb:104e3
  104bc:104e4 104bd:104e5 104be:104e6 104bf:104e7 104c0:104e8 104c1:104e9 104c2:104ea
  104c3:104eb 104c4:104ec 104c5:104ed 104c6:104ee 104c7:104ef 104c8:104f0 104c9:104f1
  104ca:104f2 104cb:104f3 104cc:104f4 104cd:104f5 104ce:104f6 104cf:104f7 104d0:104f8
  104d1:104f9 104d2:104fa 104d3:104fb 10570:10597 10571:10598 10572:10599 10573:1059a
  10574:1059b 10575:1059c 10576:1059d 10577:1059e 10578:1059f 10579:105a0 1057a:105a1
  1057c:105a3 1057d:105a4 1057e:105a5 1057f:105a6 10580:105a7 10581:105a8 10582:105a9
  10583:105aa 10584:105ab 10585:105ac 10586:105ad 10587:105ae 10588:105af 10589:105b0
  1058a:105b1 1058c:105b3 1058d:105b4 1058e:105b5 1058f:105b6 10590:105b7 10591:105b8
  10592:105b9 10594:105bb 10595:105bc 10c80:10cc0 10c81:10cc1 10c82:10cc2 10c83:10cc3
  10c84:10cc4 10c85:10cc5 10c86:10cc6 10c87:10cc7 10c88:10cc8 10c89:10cc9 10c8a:10cca
  10c8b:10ccb 10c8c:10ccc 10c8d:10ccd 10c8e:10cce 10c8f:10ccf 10c90:10cd0 10c91:10cd1
  10c92:10cd2 10c93:10cd3 10c94:10cd4 10c95:10cd5 10c96:10cd6 10c97:10cd7 10c98:10cd8
  10c99:10cd9 10c9a:10cda 10c9b:10cdb 10c9c:10cdc 10c9d:10cdd 10c9e:10cde 10c9f:10cdf
  10ca0:10ce0 10ca1:10ce1 10ca2:10ce2 10ca3:10ce3 10ca4:10ce4 10ca5:10ce5 10ca6:10ce6
  10ca7:10ce7 10ca8:10ce8 10ca9:10ce9 10caa:10cea 10cab:10ceb 10cac:10cec 10cad:10ced
  10cae:10cee 10caf:10cef 10cb0:10cf0 10cb1:10cf1 10cb2:10cf2 118a0:118c0 118a1:118c1
  118a2:118c2 118a3:118c3 118a4:118c4 118a5:118c5 118a6:118c6 118a7:118c7 118a8:118c8
  118a9:118c9 118aa:118ca 118ab:118cb 118ac:118cc 118ad:118cd 118ae:118ce 118af:118cf
  118b0:118d0 118b1:118d1 118b2:118d2 118b3:118d3 118b4:118d4 118b5:118d5 118b6:118d6
  118b7:118d7 118b8:118d8 118b9:118d9 118ba:118da 118bb:118db 118bc:118dc 118bd:118dd
  118be:118de 118bf:118df 16e40:16e60 16e41:16e61 16e42:16e62 16e43:16e63 16e44:16e64
  16e45:16e65 16e46:16e66 16e47:16e67 16e48:16e68 16e49:16e69 16e4a:16e6a 16e4b:16e6b
  16e4c:16e6c 16e4d:16e6d 16e4e:16e6e 16e4f:16e6f 16e50:16e70 16e51:16e71 16e52:16e72
  16e53:16e73 16e54:16e74 16e55:16e75 16e56:16e76 16e57:16e77 16e58:16e78 16e59:16e79
  16e5a:16e7a 16e5b:16e7b 16e5c:16e7c 16e5d:16e7d 16e5e:16e7e 16e5f:16e7f 1e900:1e922
  1e901:1e923 1e902:1e924 1e903:1e925 1e904:1e926 1e905:1e927 1e906:1e928 1e907:1e929
  1e908:1e92a 1e909:1e92b 1e90a:1e92c 1e90b:1e92d 1e90c:1e92e 1e90d:1e92f 1e90e:1e930
  1e90f:1e931 1e910:1e932 1e911:1e933 1e912:1e934 1e913:1e935 1e914:1e936 1e915:1e937
  1e916:1e938 1e917:1e939 1e918:1e93a 1e919:1e93b 1e91a:1e93c 1e91b:1e93d 1e91c:1e93e
  1e91d:1e93f 1e91e:1e940 1e91f:1e941 1e920:1e942 1e921:1e943"

set_option maxRecDepth 20000 in
/-- Full case foldings, under which texts that differ only in case become equal. -/
def fold : CaseTable := .ofCodes [
  (0x41, [0x61]), (0x42, [0x62]), (0x43, [0x63]), (0x44, [0x64]), (0x45, [0x65]),
  (0x46, [0x66]), (0x47, [0x67]), (0x48, [0x68]), (0x49, [0x69]), (0x4a, [0x6a]),
  (0x4b, [0x6b]), (0x4c, [0x6c]), (0x4d, [0x6d]), (0x4e, [0x6e]), (0x4f, [0x6f]),
  (0x50, [0x70]), (0x51, [0x71]), (0x52, [0x72]), (0x53, [0x73]), (0x54, [0x74]),
  (0x55, [0x75]), (0x56, [0x76]), (0x57, [0x77]), (0x58, [0x78]), (0x59, [0x79]),
  (0x5a, [0x7a]), (0xb5, [0x3bc]), (0xc0, [0xe0]), (0xc1, [0xe1]), (0xc2, [0xe2]),
  (0xc3, [0xe3]), (0xc4, [0xe4]), (0xc5, [0xe5]), (0xc6, [0xe6]), (0xc7, [0xe7]),
  (0xc8, [0xe8]), (0xc9, [0xe9]), (0xca, [0xea]), (0xcb, [0xeb]), (0xcc, [0xec]),
  (0xcd, [0xed]), (0xce, [0xee]), (0xcf, [0xef]), (0xd0, [0xf0]), (0xd1, [0xf1]),
  (0xd2, [0xf2]), (0xd3, [0xf3]), (0xd4, [0xf4]), (0xd5, [0xf5]), (0xd6, [0xf6]),
  (0xd8, [0xf8]), (0xd9, [0xf9]), (0xda, [0xfa]), (0xdb, [0xfb]), (0xdc, [0xfc]),
  (0xdd, [0xfd]), (0xde, [0xfe]), (0xdf, [0x73, 0x73]), (0x100, [0x101]), (0x102, [0x103]),
  (0x104, [0x105]), (0x106, [0x107]), (0x108, [0x109]), (0x10a, [0x10b]), (0x10c, [0x10d]),
  (0x10e, [0x10f]), (0x110, [0x111]), (0x112, [0x113]), (0x114, [0x115]), (0x116, [0x117]),
  (0x118, [0x119]), (0x11a, [0x11b]), (0x11c, [0x11d]), (0x11e, [0x11f]), (0x120, [0x121]),
  (0x122, [0x123]), (0x124, [0x125]), (0x126, [0x127]), (0x128, [0x129]), (0x12a, [0x12b]),
  (0x12c, [0x12d]), (0x12e, [0x12f]), (0x130, [0x69, 0x307]), (0x132, [0x133]),
  (0x134, [0x135]), (0x136, [0x137]), (0x139, [0x13a]), (0x13b, [0x13c]), (0x13d, [0x13e]),
  (0x13f, [0x140]), (0x141, [0x142]), (0x143, [0x144]), (0x145, [0x146]), (0x147, [0x148]),
  (0x149, [0x2bc, 0x6e]), (0x14a, [0x14b]), (0x14c, [0x14d]), (0x14e, [0x14f]),
  (0x150, [0x151]), (0x152, [0x153]), (0x154, [0x155]), (0x156, [0x157]), (0x158, [0x159]),
  (0x15a, [0x15b]), (0x15c, [0x15d]), (0x15e, [0x15f]), (0x160, [0x161]), (0x162, [0x163]),
  (0x164, [0x165]), (0x166, [0x167]), (0x168, [0x169]), (0x16a, [0x16b]), (0x16c, [0x16d]),
  (0x16e, [0x16f]), (0x170, [0x171]), (0x172, [0x173]), (0x174, [0x175]), (0x176, [0x177]),
  (0x178, [0xff]), (0x179, [0x17a]), (0x17b, [0x17c]), (0x17d, [0x17e]), (0x17f, [0x73]),
  (0x181, [0x253]), (0x182, [0x183]), (0x184, [0x185]), (0x186, [0x254]), (0x187, [0x188]),
  (0x189, [0x256]), (0x18a, [0x257]), (0x18b, [0x18c]), (0x18e, [0x1dd]), (0x18f, [0x259]),
  (0x190, [0x25b]), (0x191, [0x192]), (0x193, [0x260]), (0x194, [0x263]), (0x196, [0x269]),
  (0x197, [0x268]), (0x198, [0x199]), (0x19c, [0x26f]), (0x19d, [0x272]), (0x19f, [0x275]),
  (0x1a0, [0x1a1]), (0x1a2, [0x1a3]), (0x1a4, [0x1a5]), (0x1a6, [0x280]), (0x1a7, [0x1a8]),
  (0x1a9, [0x283]), (0x1ac, [0x1ad]), (0x1ae, [0x288]), (0x1af, [0x1b0]), (0x1b1, [0x28a]),
  (0x1b2, [0x28b]), (0x1b3, [0x1b4]), (0x1b5, [0x1b6]), (0x1b7, [0x292]), (0x1b8, [0x1b9]),
  (0x1bc, [0x1bd]), (0x1c4, [0x1c6]), (0x1c5, [0x1c6]), (0x1c7, [0x1c9]), (0x1c8, [0x1c9]),
  (0x1ca, [0x1cc]), (0x1cb, [0x1cc]), (0x1cd, [0x1ce]), (0x1cf, [0x1d0]), (0x1d1, [0x1d2]),
  (0x1d3, [0x1d4]), (0x1d5, [0x1d6]), (0x1d7, [0x1d8]), (0x1d9, [0x1da]), (0x1db, [0x1dc]),
  (0x1de, [0x1df]), (0x1e0, [0x1e1]), (0x1e2, [0x1e3]), (0x1e4, [0x1e5]), (0x1e6, [0x1e7]),
  (0x1e8, [0x1e9]), (0x1ea, [0x1eb]), (0x1ec, [0x1ed]), (0x1ee, [0x1ef]),
  (0x1f0, [0x6a, 0x30c]), (0x1f1, [0x1f3]), (0x1f2, [0x1f3]), (0x1f4, [0x1f5]),
  (0x1f6, [0x195]), (0x1f7, [0x1bf]), (0x1f8, [0x1f9]), (0x1fa, [0x1fb]), (0x1fc, [0x1fd]),
  (0x1fe, [0x1ff]), (0x200, [0x201]), (0x202, [0x203]), (0x204, [0x205]), (0x206, [0x207]),
  (0x208, [0x209]), (0x20a, [0x20b]), (0x20c, [0x20d]), (0x20e, [0x20f]), (0x210, [0x211]),
  (0x212, [0x213]), (0x214, [0x215]), (0x216, [0x217]), (0x218, [0x219]), (0x21a, [0x21b]),
  (0x21c, [0x21d]), (0x21e, [0x21f]), (0x220, [0x19e]), (0x222, [0x223]), (0x224, [0x225]),
  (0x226, [0x227]), (0x228, [0x229]), (0x22a, [0x22b]), (0x22c, [0x22d]), (0x22e, [0x22f]),
  (0x230, [0x231]), (0x232, [0x233]), (0x23a, [0x2c65]), (0x23b, [0x23c]), (0x23d, [0x19a]),
  (0x23e, [0x2c66]), (0x241, [0x242]), (0x243, [0x180]), (0x244, [0x289]), (0x245, [0x28c]),
  (0x246, [0x247]), (0x248, [0x249]), (0x24a, [0x24b]), (0x24c, [0x24d]), (0x24e, [0x24f]),
  (0x345, [0x3b9]), (0x370, [0x371]), (0x372, [0x373]), (0x376, [0x377]), (0x37f, [0x3f3]),
  (0x386, [0x3ac]), (0x388, [0x3ad]), (0x389, [0x3ae]), (0x38a, [0x3af]), (0x38c, [0x3cc]),
  (0x38e, [0x3cd]), (0x38f, [0x3ce]), (0x390, [0x3b9, 0x308, 0x301]), (0x391, [0x3b1]),
  (0x392, [0x3b2]), (0x393, [0x3b3]), (0x394, [0x3b4]), (0x395, [0x3b5]), (0x396, [0x3b6]),
  (0x397, [0x3b7]), (0x398, [0x3b8]), (0x399, [0x3b9]), (0x39a, [0x3ba]), (0x39b, [0x3bb]),
  (0x39c, [0x3bc]), (0x39d, [0x3bd]), (0x39e, [0x3be]), (0x39f, [0x3bf]), (0x3a0, [0x3c0]),
  (0x3a1, [0x3c1]), (0x3a3, [0x3c3]), (0x3a4, [0x3c4]), (0x3a5, [0x3c5]), (0x3a6, [0x3c6]),
  (0x3a7, [0x3c7]), (0x3a8, [0x3c8]), (0x3a9, [0x3c9]), (0x3aa, [0x3ca]), (0x3ab, [0x3cb]),
  (0x3b0, [0x3c5, 0x308, 0x301]), (0x3c2, [0x3c3]), (0x3cf, [0x3d7]), (0x3d0, [0x3b2]),
  (0x3d1, [0x3b8]), (0x3d5, [0x3c6]), (0x3d6, [0x3c0]), (0x3d8, [0x3d9]), (0x3da, [0x3db]),
  (0x3dc, [0x3dd]), (0x3de, [0x3df]), (0x3e0, [0x3e1]), (0x3e2, [0x3e3]), (0x3e4, [0x3e5]),
  (0x3e6, [0x3e7]), (0x3e8, [0x3e9]), (0x3ea, [0x3eb]), (0x3ec, [0x3ed]), (0x3ee, [0x3ef]),
  (0x3f0, [0x3ba]), (0x3f1, [0x3c1]), (0x3f4, [0x3b8]), (0x3f5, [0x3b5]), (0x3f7, [0x3f8]),
  (0x3f9, [0x3f2]), (0x3fa, [0x3fb]), (0x3fd, [0x37b]), (0x3fe, [0x37c]), (0x3ff, [0x37d]),
  (0x400, [0x450]), (0x401, [0x451]), (0x402, [0x452]), (0x403, [0x453]), (0x404, [0x454]),
  (0x405, [0x455]), (0x406, [0x456]), (0x407, [0x457]), (0x408, [0x458]), (0x409, [0x459]),
  (0x40a, [0x45a]), (0x40b, [0x45b]), (0x40c, [0x45c]), (0x40d, [0x45d]), (0x40e, [0x45e]),
  (0x40f, [0x45f]), (0x410, [0x430]), (0x411, [0x431]), (0x412, [0x432]), (0x413, [0x433]),
  (0x414, [0x434]), (0x415, [0x435]), (0x416, [0x436]), (0x417, [0x437]), (0x418, [0x438]),
  (0x419, [0x439]), (0x41a, [0x43a]), (0x41b, [0x43b]), (0x41c, [0x43c]), (0x41d, [0x43d]),
  (0x41e, [0x43e]), (0x41f, [0x43f]), (0x420, [0x440]), (0x421, [0x441]), (0x422, [0x442]),
  (0x423, [0x443]), (0x424, [0x444]), (0x425, [0x445]), (0x426, [0x446]), (0x427, [0x447]),
  (0x428, [0x448]), (0x429, [0x449]), (0x42a, [0x44a]), (0x42b, [0x44b]), (0x42c, [0x44c]),
  (0x42d, [0x44d]), (0x42e, [0x44e]), (0x42f, [0x44f]), (0x460, [0x461]), (0x462, [0x463]),
  (0x464, [0x465]), (0x466, [0x467]), (0x468, [0x469]), (0x46a, [0x46b]), (0x46c, [0x46d]),
  (0x46e, [0x46f]), (0x470, [0x471]), (0x472, [0x473]), (0x474, [0x475]), (0x476, [0x477]),
  (0x478, [0x479]), (0x47a, [0x47b]), (0x47c, [0x47d]), (0x47e, [0x47f]), (0x480, [0x481]),
  (0x48a, [0x48b]), (0x48c, [0x48d]), (0x48e, [0x48f]), (0x490, [0x491]), (0x492, [0x493]),
  (0x494, [0x495]), (0x496, [0x497]), (0x498, [0x499]), (0x49a, [0x49b]), (0x49c, [0x49d]),
  (0x49e, [0x49f]), (0x4a0, [0x4a1]), (0x4a2, [0x4a3]), (0x4a4, [0x4a5]), (0x4a6, [0x4a7]),
  (0x4a8, [0x4a9]), (0x4aa, [0x4ab]), (0x4ac, [0x4ad]), (0x4ae, [0x4af]), (0x4b0, [0x4b1]),
  (0x4b2, [0x4b3]), (0x4b4, [0x4b5]), (0x4b6, [0x4b7]), (0x4b8, [0x4b9]), (0x4ba, [0x4bb]),
  (0x4bc, [0x4bd]), (0x4be, [0x4bf]), (0x4c0, [0x4cf]), (0x4c1, [0x4c2]), (0x4c3, [0x4c4]),
  (0x4c5, [0x4c6]), (0x4c7, [0x4c8]), (0x4c9, [0x4ca]), (0x4cb, [0x4cc]), (0x4cd, [0x4ce]),
  (0x4d0, [0x4d1]), (0x4d2, [0x4d3]), (0x4d4, [0x4d5]), (0x4d6, [0x4d7]), (0x4d8, [0x4d9]),
  (0x4da, [0x4db]), (0x4dc, [0x4dd]), (0x4de, [0x4df]), (0x4e0, [0x4e1]), (0x4e2, [0x4e3]),
  (0x4e4, [0x4e5]), (0x4e6, [0x4e7]), (0x4e8, [0x4e9]), (0x4ea, [0x4eb]), (0x4ec, [0x4ed]),
  (0x4ee, [0x4ef]), (0x4f0, [0x4f1]), (0x4f2, [0x4f3]), (0x4f4, [0x4f5]), (0x4f6, [0x4f7]),
  (0x4f8, [0x4f9]), (0x4fa, [0x4fb]), (0x4fc, [0x4fd]), (0x4fe, [0x4ff]), (0x500, [0x501]),
  (0x502, [0x503]), (0x504, [0x505]), (0x506, [0x507]), (0x508, [0x509]), (0x50a, [0x50b]),
  (0x50c, [0x50d]), (0x50e, [0x50f]), (0x510, [0x511]), (0x512, [0x513]), (0x514, [0x515]),
  (0x516, [0x517]), (0x518, [0x519]), (0x51a, [0x51b]), (0x51c, [0x51d]), (0x51e, [0x51f]),
  (0x520, [0x521]), (0x522, [0x523]), (0x524, [0x525]), (0x526, [0x527]), (0x528, [0x529]),
  (0x52a, [0x52b]), (0x52c, [0x52d]), (0x52e, [0x52f]), (0x531, [0x561]), (0x532, [0x562]),
  (0x533, [0x563]), (0x534, [0x564]), (0x535, [0x565]), (0x536, [0x566]), (0x537, [0x567]),
  (0x538, [0x568]), (0x539, [0x569]), (0x53a, [0x56a]), (0x53b, [0x56b]), (0x53c, [0x56c]),
  (0x53d, [0x56d]), (0x53e, [0x56e]), (0x53f, [0x56f]), (0x540, [0x570]), (0x541, [0x571]),
  (0x542, [0x572]), (0x543, [0x573]), (0x544, [0x574]), (0x545, [0x575]), (0x546, [0x576]),
  (0x547, [0x577]), (0x548, [0x578]), (0x549, [0x579]), (0x54a, [0x57a]), (0x54b, [0x57b]),
  (0x54c, [0x57c]), (0x54d, [0x57d]), (0x54e, [0x57e]), (0x54f, [0x57f]), (0x550, [0x580]),
  (0x551, [0x581]), (0x552, [0x582]), (0x553, [0x583]), (0x554, [0x584]), (0x555, [0x585]),
  (0x556, [0x586]), (0x587, [0x565, 0x582]), (0x10a0, [0x2d00]), (0x10a1, [0x2d01]),
  (0x10a2, [0x2d02]), (0x10a3, [0x2d03]), (0x10a4, [0x2d04]), (0x10a5, [0x2d05]),
  (0x10a6, [0x2d06]), (0x10a7, [0x2d07]), (0x10a8, [0x2d08]), (0x10a9, [0x2d09]),
  (0x10aa, [0x2d0a]), (0x10ab, [0x2d0b]), (0x10ac, [0x2d0c]), (0x10ad, [0x2d0d]),
  (0x10ae, [0x2d0e]), (0x10af, [0x2d0f]), (0x10b0, [0x2d10]), (0x10b1, [0x2d11]),
  (0x10b2, [0x2d12]), (0x10b3, [0x2d13]), (0x10b4, [0x2d14]), (0x10b5, [0x2d15]),
  (0x10b6, [0x2d16]), (0x10b7, [0x2d17]), (0x10b8, [0x2d18]), (0x10b9, [0x2d19]),
  (0x10ba, [0x2d1a]), (0x10bb, [0x2d1b]), (0x10bc, [0x2d1c]), (0x10bd, [0x2d1d]),
  (0x10be, [0x2d1e]), (0x10bf, [0x2d1f]), (0x10c0, [0x2d20]), (0x10c1, [0x2d21]),
  (0x10c2, [0x2d22]), (0x10c3, [0x2d23]), (0x10c4, [0x2d24]), (0x10c5, [0x2d25]),
  (0x10c7, [0x2d27]), (0x10cd, [0x2d2d]), (0x13f8, [0x13f0]), (0x13f9, [0x13f1]),
  (0x13fa, [0x13f2]), (0x13fb, [0x13f3]), (0x13fc, [0x13f4]), (0x13fd, [0x13f5]),
  (0x1c80, [0x432]), (0x1c81, [0x434]), (0x1c82, [0x43e]), (0x1c83, [0x441]), (0x1c84, [0x442]),
  (0x1c85, [0x442]), (0x1c86, [0x44a]), (0x1c87, [0x463]), (0x1c88, [0xa64b]),
  (0x1c90, [0x10d0]), (0x1c91, [0x10d1]), (0x1c92, [0x10d2]), (0x1c93, [0x10d3]),
  (0x1c94, [0x10d4]), (0x1c95, [0x10d5]), (0x1c96, [0x10d6]), (0x1c97, [0x10d7]),
  (0x1c98, [0x10d8]), (0x1c99, [0x10d9]), (0x1c9a, [0x10da]), (0x1c9b, [0x10db]),
  (0x1c9c, [0x10dc]), (0x1c9d, [0x10dd]), (0x1c9e, [0x10de]), (0x1c9f, [0x10df]),
  (0x1ca0, [0x10e0]), (0x1ca1, [0x10e1]), (0x1ca2, [0x10e2]), (0x1ca3, [0x10e3]),
  (0x1ca4, [0x10e4]), (0x1ca5, [0x10e5]), (0x1ca6, [0x10e6]), (0x1ca7, [0x10e7]),
  (0x1ca8, [0x10e8]), (0x1ca9, [0x10e9]), (0x1caa, [0x10ea]), (0x1cab, [0x10eb]),
  (0x1cac, [0x10ec]), (0x1cad, [0x10ed]), (0x1cae, [0x10ee]), (0x1caf, [0x10ef]),
  (0x1cb0, [0x10f0]), (0x1cb1, [0x10f1]), (0x1cb2, [0x10f2]), (0x1cb3, [0x10f3]),
  (0x1cb4, [0x10f4]), (0x1cb5, [0x10f5]), (0x1cb6, [0x10f6]), (0x1cb7, [0x10f7]),
  (0x1cb8, [0x10f8]), (0x1cb9, [0x10f9]), (0x1cba, [0x10fa]), (0x1cbd, [0x10fd]),
  (0x1cbe, [0x10fe]), (0x1cbf, [0x10ff]), (0x1e00, [0x1e01]), (0x1e02, [0x1e03]),
  (0x1e04, [0x1e05]), (0x1e06, [0x1e07]), (0x1e08, [0x1e09]), (0x1e0a, [0x1e0b]),
  (0x1e0c, [0x1e0d]), (0x1e0e, [0x1e0f]), (0x1e10, [0x1e11]), (0x1e12, [0x1e13]),
  (0x1e14, [0x1e15]), (0x1e16, [0x1e17]), (0x1e18, [0x1e19]), (0x1e1a, [0x1e1b]),
  (0x1e1c, [0x1e1d]), (0x1e1e, [0x1e1f]), (0x1e20, [0x1e21]), (0x1e22, [0x1e23]),
  (0x1e24, [0x1e25]), (0x1e26, [0x1e27]), (0x1e28, [0x1e29]), (0x1e2a, [0x1e2b]),
  (0x1e2c, [0x1e2d]), (0x1e2e, [0x1e2f]), (0x1e30, [0x1e31]), (0x1e32, [0x1e33]),
  (0x1e34, [0x1e35]), (0x1e36, [0x1e37]), (0x1e38, [0x1e39]), (0x1e3a, [0x1e3b]),
  (0x1e3c, [0x1e3d]), (0x1e3e, [0x1e3f]), (0x1e40, [0x1e41]), (0x1e42, [0x1e43]),
  (0x1e44, [0x1e45]), (0x1e46, [0x1e47]), (0x1e48, [0x1e49]), (0x1e4a, [0x1e4b]),
  (0x1e4c, [0x1e4d]), (0x1e4e, [0x1e4f]), (0x1e50, [0x1e51]), (0x1e52, [0x1e53]),
  (0x1e54, [0x1e55]), (0x1e56, [0x1e57]), (0x1e58, [0x1e59]), (0x1e5a, [0x1e5b]),
  (0x1e5c, [0x1e5d]), (0x1e5e, [0x1e5f]), (0x1e60, [0x1e61]), (0x1e62, [0x1e63]),
  (0x1e64, [0x1e65]), (0x1e66, [0x1e67]), (0x1e68, [0x1e69]), (0x1e6a, [0x1e6b]),
  (0x1e6c, [0x1e6d]), (0x1e6e, [0x1e6f]), (0x1e70, [0x1e71]), (0x1e72, [0x1e73]),
  (0x1e74, [0x1e75]), (0x1e76, [0x1e77]), (0x1e78, [0x1e79]), (0x1e7a, [0x1e7b]),
  (0x1e7c, [0x1e7d]), (0x1e7e, [0x1e7f]), (0x1e80, [0x1e81]), (0x1e82, [0x1e83]),
  (0x1e84, [0x1e85]), (0x1e86, [0x1e87]), (0x1e88, [0x1e89]), (0x1e8a, [0x1e8b]),
  (0x1e8c, [0x1e8d]), (0x1e8e, [0x1e8f]), (0x1e90, [0x1e91]), (0x1e92, [0x1e93]),
  (0x1e94, [0x1e95]), (0x1e96, [0x68, 0x331]), (0x1e97, [0x74, 0x308]), (0x1e98, [0x77, 0x30a]),
  (0x1e99, [0x79, 0x30a]), (0x1e9a, [0x61, 0x2be]), (0x1e9b, [0x1e61]), (0x1e9e, [0x73, 0x73]),
  (0x1ea0, [0x1ea1]), (0x1ea2, [0x1ea3]), (0x1ea4, [0x1ea5]), (0x1ea6, [0x1ea7]),
  (0x1ea8, [0x1ea9]), (0x1eaa, [0x1eab]), (0x1eac, [0x1ead]), (0x1eae, [0x1eaf]),
  (0x1eb0, [0x1eb1]), (0x1eb2, [0x1eb3]), (0x1eb4, [0x1eb5]), (0x1eb6, [0x1eb7]),
  (0x1eb8, [0x1eb9]), (0x1eba, [0x1ebb]), (0x1ebc, [0x1ebd]), (0x1ebe, [0x1ebf]),
  (0x1ec0, [0x1ec1]), (0x1ec2, [0x1ec3]), (0x1ec4, [0x1ec5]), (0x1ec6, [0x1ec7]),
  (0x1ec8, [0x1ec9]), (0x1eca, [0x1ecb]), (0x1ecc, [0x1ecd]), (0x1ece, [0x1ecf]),
  (0x1ed0, [0x1ed1]), (0x1ed2, [0x1ed3]), (0x1ed4, [0x1ed5]), (0x1ed6, [0x1ed7]),
  (0x1ed8, [0x1ed9]), (0x1eda, [0x1edb]), (0x1edc, [0x1edd]), (0x1ede, [0x1edf]),
  (0x1ee0, [0x1ee1]), (0x1ee2, [0x1ee3]), (0x1ee4, [0x1ee5]), (0x1ee6, [0x1ee7]),
  (0x1ee8, [0x1ee9]), (0x1eea, [0x1eeb]), (0x1eec, [0x1eed]), (0x1eee, [0x1eef]),
  (0x1ef0, [0x1ef1]), (0x1ef2, [0x1ef3]), (0x1ef4, [0x1ef5]), (0x1ef6, [0x1ef7]),
  (0x1ef8, [0x1ef9]), (0x1efa, [0x1efb]), (0x1efc, [0x1efd]), (0x1efe, [0x1eff]),
  (0x1f08, [0x1f00]), (0x1f09, [0x1f01]), (0x1f0a, [0x1f02]), (0x1f0b, [0x1f03]),
  (0x1f0c, [0x1f04]), (0x1f0d, [0x1f05]), (0x1f0e, [0x1f06]), (0x1f0f, [0x1f07]),
  (0x1f18, [0x1f10]), (0x1f19, [0x1f11]), (0x1f1a, [0x1f12]), (0x1f1b, [0x1f13]),
  (0x1f1c, [0x1f14]), (0x1f1d, [0x1f15]), (0x1f28, [0x1f20]), (0x1f29, [0x1f21]),
  (0x1f2a, [0x1f22]), (0x1f2b, [0x1f23]), (0x1f2c, [0x1f24]), (0x1f2d, [0x1f25]),
  (0x1f2e, [0x1f26]), (0x1f2f, [0x1f27]), (0x1f38, [0x1f30]), (0x1f39, [0x1f31]),
  (0x1f3a, [0x1f32]), (0x1f3b, [0x1f33]), (0x1f3c, [0x1f34]), (0x1f3d, [0x1f35]),
  (0x1f3e, [0x1f36]), (0x1f3f, [0x1f37]), (0x1f48, [0x1f40]), (0x1f49, [0x1f41]),
  (0x1f4a, [0x1f42]), (0x1f4b, [0x1f43]), (0x1f4c, [0x1f44]), (0x1f4d, [0x1f45]),
  (0x1f50, [0x3c5, 0x313]), (0x1f52, [0x3c5, 0x313, 0x300]), (0x1f54, [0x3c5, 0x313, 0x301]),
  (0x1f56, [0x3c5, 0x313, 0x342]), (0x1f59, [0x1f51]), (0x1f5b, [0x1f53]), (0x1f5d, [0x1f55]),
  (0x1f5f, [0x1f57]), (0x1f68, [0x1f60]), (0x1f69, [0x1f61]), (0x1f6a, [0x1f62]),
  (0x1f6b, [0x1f63]), (0x1f6c, [0x1f64]), (0x1f6d, [0x1f65]), (0x1f6e, [0x1f66]),
  (0x1f6f, [0x1f67]), (0x1f80, [0x1f00, 0x3b9]), (0x1f81, [0x1f01, 0x3b9]),
  (0x1f82, [0x1f02, 0x3b9]), (0x1f83, [0x1f03, 0x3b9]), (0x1f84, [0x1f04, 0x3b9]),
  (0x1f85, [0x1f05, 0x3b9]), (0x1f86, [0x1f06, 0x3b9]), (0x1f87, [0x1f07, 0x3b9]),
  (0x1f88, [0x1f00, 0x3b9]), (0x1f89, [0x1f01, 0x3b9]), (0x1f8a, [0x1f02, 0x3b9]),
  (0x1f8b, [0x1f03, 0x3b9]), (0x1f8c, [0x1f04, 0x3b9]), (0x1f8d, [0x1f05, 0x3b9]),
  (0x1f8e, [0x1f06, 0x3b9]), (0x1f8f, [0x1f07, 0x3b9]), (0x1f90, [0x1f20, 0x3b9]),
  (0x1f91, [0x1f21, 0x3b9]), (0x1f92, [0x1f22, 0x3b9]), (0x1f93, [0x1f23, 0x3b9]),
  (0x1f94, [0x1f24, 0x3b9]), (0x1f95, [0x1f25, 0x3b9]), (0x1f96, [0x1f26, 0x3b9]),
  (0x1f97, [0x1f27, 0x3b9]), (0x1f98, [0x1f20, 0x3b9]), (0x1f99, [0x1f21, 0x3b9]),
  (0x1f9a, [0x1f22, 0x3b9]), (0x1f9b, [0x1f23, 0x3b9]), (0x1f9c, [0x1f24, 0x3b9]),
  (0x1f9d, [0x1f25, 0x3b9]), (0x1f9e, [0x1f26, 0x3b9]), (0x1f9f, [0x1f27, 0x3b9]),
  (0x1fa0, [0x1f60, 0x3b9]), (0x1fa1, [0x1f61, 0x3b9]), (0x1fa2, [0x1f62, 0x3b9]),
  (0x1fa3, [0x1f63, 0x3b9]), (0x1fa4, [0x1f64, 0x3b9]), (0x1fa5, [0x1f65, 0x3b9]),
  (0x1fa6, [0x1f66, 0x3b9]), (0x1fa7, [0x1f67, 0x3b9]), (0x1fa8, [0x1f60, 0x3b9]),
  (0x1fa9, [0x1f61, 0x3b9]), (0x1faa, [0x1f62, 0x3b9]), (0x1fab, [0x1f63, 0x3b9]),
  (0x1fac, [0x1f64, 0x3b9]), (0x1fad, [0x1f65, 0x3b9]), (0x1fae, [0x1f66, 0x3b9]),
  (0x1faf, [0x1f67, 0x3b9]), (0x1fb2, [0x1f70, 0x3b9]), (0x1fb3, [0x3b1, 0x3b9]),
  (0x1fb4, [0x3ac, 0x3b9]), (0x1fb6, [0x3b1, 0x342]), (0x1fb7, [0x3b1, 0x342, 0x3b9]),
  (0x1fb8, [0x1fb0]), (0x1fb9, [0x1fb1]), (0x1fba, [0x1f70]), (0x1fbb, [0x1f71]),
  (0x1fbc, [0x3b1, 0x3b9]), (0x1fbe, [0x3b9]), (0x1fc2, [0x1f74, 0x3b9]),
  (0x1fc3, [0x3b7, 0x3b9]), (0x1fc4, [0x3ae, 0x3b9]), (0x1fc6, [0x3b7, 0x342]),
  (0x1fc7, [0x3b7, 0x342, 0x3b9]), (0x1fc8, [0x1f72]), (0x1fc9, [0x1f73]), (0x1fca, [0x1f74]),
  (0x1fcb, [0x1f75]), (0x1fcc, [0x3b7, 0x3b9]), (0x1fd2, [0x3b9, 0x308, 0x300]),
  (0x1fd3, [0x3b9, 0x308, 0x301]), (0x1fd6, [0x3b9, 0x342]), (0x1fd7, [0x3b9, 0x308, 0x342]),
  (0x1fd8, [0x1fd0]), (0x1fd9, [0x1fd1]), (0x1fda, [0x1f76]), (0x1fdb, [0x1f77]),
  (0x1fe2, [0x3c5, 0x308, 0x300]), (0x1fe3, [0x3c5, 0x308, 0x301]), (0x1fe4, [0x3c1, 0x313]),
  (0x1fe6, [0x3c5, 0x342]), (0x1fe7, [0x3c5, 0x308, 0x342]), (0x1fe8, [0x1fe0]),
  (0x1fe9, [0x1fe1]), (0x1fea, [0x1f7a]), (0x1feb, [0x1f7b]), (0x1fec, [0x1fe5]),
  (0x1ff2, [0x1f7c, 0x3b9]), (0x1ff3, [0x3c9, 0x3b9]), (0x1ff4, [0x3ce, 0x3b9]),
  (0x1ff6, [0x3c9, 0x342]), (0x1ff7, [0x3c9, 0x342, 0x3b9]), (0x1ff8, [0x1f78]),
  (0x1ff9, [0x1f79]), (0x1ffa, [0x1f7c]), (0x1ffb, [0x1f7d]), (0x1ffc, [0x3c9, 0x3b9]),
  (0x2126, [0x3c9]), (0x212a, [0x6b]), (0x212b, [0xe5]), (0x2132, [0x214e]), (0x2160, [0x2170]),
  (0x2161, [0x2171]), (0x2162, [0x2172]), (0x2163, [0x2173]), (0x2164, [0x2174]),
  (0x2165, [0x2175]), (0x2166, [0x2176]), (0x2167, [0x2177]), (0x2168, [0x2178]),
  (0x2169, [0x2179]), (0x216a, [0x217a]), (0x216b, [0x217b]), (0x216c, [0x217c]),
  (0x216d, [0x217d]), (0x216e, [0x217e]), (0x216f, [0x217f]), (0x2183, [0x2184]),
  (0x24b6, [0x24d0]), (0x24b7, [0x24d1]), (0x24b8, [0x24d2]), (0x24b9, [0x24d3]),
  (0x24ba, [0x24d4]), (0x24bb, [0x24d5]), (0x24bc, [0x24d6]), (0x24bd, [0x24d7]),
  (0x24be, [0x24d8]), (0x24bf, [0x24d9]), (0x24c0, [0x24da]), (0x24c1, [0x24db]),
  (0x24c2, [0x24dc]), (0x24c3, [0x24dd]), (0x24c4, [0x24de]), (0x24c5, [0x24df]),
  (0x24c6, [0x24e0]), (0x24c7, [0x24e1]), (0x24c8, [0x24e2]), (0x24c9, [0x24e3]),
  (0x24ca, [0x24e4]), (0x24cb, [0x24e5]), (0x24cc, [0x24e6]), (0x24cd, [0x24e7]),
  (0x24ce, [0x24e8]), (0x24cf, [0x24e9]), (0x2c00, [0x2c30]), (0x2c01, [0x2c31]),
  (0x2c02, [0x2c32]), (0x2c03, [0x2c33]), (0x2c04, [0x2c34]), (0x2c05, [0x2c35]),
  (0x2c06, [0x2c36]), (0x2c07, [0x2c37]), (0x2c08, [0x2c38]), (0x2c09, [0x2c39]),
  (0x2c0a, [0x2c3a]), (0x2c0b, [0x2c3b]), (0x2c0c, [0x2c3c]), (0x2c0d, [0x2c3d]),
  (0x2c0e, [0x2c3e]), (0x2c0f, [0x2c3f]), (0x2c10, [0x2c40]), (0x2c11, [0x2c41]),
  (0x2c12, [0x2c42]), (0x2c13, [0x2c43]), (0x2c14, [0x2c44]), (0x2c15, [0x2c45]),
  (0x2c16, [0x2c46]), (0x2c17, [0x2c47]), (0x2c18, [0x2c48]), (0x2c19, [0x2c49]),
  (0x2c1a, [0x2c4a]), (0x2c1b, [0x2c4b]), (0x2c1c, [0x2c4c]), (0x2c1d, [0x2c4d]),
  (0x2c1e, [0x2c4e]), (0x2c1f, [0x2c4f]), (0x2c20, [0x2c50]), (0x2c21, [0x2c51]),
  (0x2c22, [0x2c52]), (0x2c23, [0x2c53]), (0x2c24, [0x2c54]), (0x2c25, [0x2c55]),
  (0x2c26, [0x2c56]), (0x2c27, [0x2c57]), (0x2c28, [0x2c58]), (0x2c29, [0x2c59]),
  (0x2c2a, [0x2c5a]), (0x2c2b, [0x2c5b]), (0x2c2c, [0x2c5c]), (0x2c2d, [0x2c5d]),
  (0x2c2e, [0x2c5e]), (0x2c2f, [0x2c5f]), (0x2c60, [0x2c61]), (0x2c62, [0x26b]),
  (0x2c63, [0x1d7d]), (0x2c64, [0x27d]), (0x2c67, [0x2c68]), (0x2c69, [0x2c6a]),
  (0x2c6b, [0x2c6c]), (0x2c6d, [0x251]), (0x2c6e, [0x271]), (0x2c6f, [0x250]),
  (0x2c70, [0x252]), (0x2c72, [0x2c73]), (0x2c75, [0x2c76]), (0x2c7e, [0x23f]),
  (0x2c7f, [0x240]), (0x2c80, [0x2c81]), (0x2c82, [0x2c83]), (0x2c84, [0x2c85]),
  (0x2c86, [0x2c87]), (0x2c88, [0x2c89]), (0x2c8a, [0x2c8b]), (0x2c8c, [0x2c8d]),
  (0x2c8e, [0x2c8f]), (0x2c90, [0x2c91]), (0x2c92, [0x2c93]), (0x2c94, [0x2c95]),
  (0x2c96, [0x2c97]), (0x2c98, [0x2c99]), (0x2c9a, [0x2c9b]), (0x2c9c, [0x2c9d]),
  (0x2c9e, [0x2c9f]), (0x2ca0, [0x2ca1]), (0x2ca2, [0x2ca3]), (0x2ca4, [0x2ca5]),
  (0x2ca6, [0x2ca7]), (0x2ca8, [0x2ca9]), (0x2caa, [0x2cab]), (0x2cac, [0x2cad]),
  (0x2cae, [0x2caf]), (0x2cb0, [0x2cb1]), (0x2cb2, [0x2cb3]), (0x2cb4, [0x2cb5]),
  (0x2cb6, [0x2cb7]), (0x2cb8, [0x2cb9]), (0x2cba, [0x2cbb]), (0x2cbc, [0x2cbd]),
  (0x2cbe, [0x2cbf]), (0x2cc0, [0x2cc1]), (0x2cc2, [0x2cc3]), (0x2cc4, [0x2cc5]),
  (0x2cc6, [0x2cc7]), (0x2cc8, [0x2cc9]), (0x2cca, [0x2ccb]), (0x2ccc, [0x2ccd]),
  (0x2cce, [0x2ccf]), (0x2cd0, [0x2cd1]), (0x2cd2, [0x2cd3]), (0x2cd4, [0x2cd5]),
  (0x2cd6, [0x2cd7]), (0x2cd8, [0x2cd9]), (0x2cda, [0x2cdb]), (0x2cdc, [0x2cdd]),
  (0x2cde, [0x2cdf]), (0x2ce0, [0x2ce1]), (0x2ce2, [0x2ce3]), (0x2ceb, [0x2cec]),
  (0x2ced, [0x2cee]), (0x2cf2, [0x2cf3]), (0xa640, [0xa641]), (0xa642, [0xa643]),
  (0xa644, [0xa645]), (0xa646, [0xa647]), (0xa648, [0xa649]), (0xa64a, [0xa64b]),
  (0xa64c, [0xa64d]), (0xa64e, [0xa64f]), (0xa650, [0xa651]), (0xa652, [0xa653]),
  (0xa654, [0xa655]), (0xa656, [0xa657]), (0xa658, [0xa659]), (0xa65a, [0xa65b]),
  (0xa65c, [0xa65d]), (0xa65e, [0xa65f]), (0xa660, [0xa661]), (0xa662, [0xa663]),
  (0xa664, [0xa665]), (0xa666, [0xa667]), (0xa668, [0xa669]), (0xa66a, [0xa66b]),
  (0xa66c, [0xa66d]), (0xa680, [0xa681]), (0xa682, [0xa683]), (0xa684, [0xa685]),
  (0xa686, [0xa687]), (0xa688, [0xa689]), (0xa68a, [0xa68b]), (0xa68c, [0xa68d]),
  (0xa68e, [0xa68f]), (0xa690, [0xa691]), (0xa692, [0xa693]), (0xa694, [0xa695]),
  (0xa696, [0xa697]), (0xa698, [0xa699]), (0xa69a, [0xa69b]), (0xa722, [0xa723]),
  (0xa724, [0xa725]), (0xa726, [0xa727]), (0xa728, [0xa729]), (0xa72a, [0xa72b]),
  (0xa72c, [0xa72d]), (0xa72e, [0xa72f]), (0xa732, [0xa733]), (0xa734, [0xa735]),
  (0xa736, [0xa737]), (0xa738, [0xa739]), (0xa73a, [0xa73b]), (0xa73c, [0xa73d]),
  (0xa73e, [0xa73f]), (0xa740, [0xa741]), (0xa742, [0xa743]), (0xa744, [0xa745]),
  (0xa746, [0xa747]), (0xa748, [0xa749]), (0xa74a, [0xa74b]), (0xa74c, [0xa74d]),
  (0xa74e, [0xa74f]), (0xa750, [0xa751]), (0xa752, [0xa753]), (0xa754, [0xa755]),
  (0xa756, [0xa757]), (0xa758, [0xa759]), (0xa75a, [0xa75b]), (0xa75c, [0xa75d]),
  (0xa75e, [0xa75f]), (0xa760, [0xa761]), (0xa762, [0xa763]), (0xa764, [0xa765]),
  (0xa766, [0xa767]), (0xa768, [0xa769]), (0xa76a, [0xa76b]), (0xa76c, [0xa76d]),
  (0xa76e, [0xa76f]), (0xa779, [0xa77a]), (0xa77b, [0xa77c]), (0xa77d, [0x1d79]),
  (0xa77e, [0xa77f]), (0xa780, [0xa781]), (0xa782, [0xa783]), (0xa784, [0xa785]),
  (0xa786, [0xa787]), (0xa78b, [0xa78c]), (0xa78d, [0x265]), (0xa790, [0xa791]),
  (0xa792, [0xa793]), (0xa796, [0xa797]), (0xa798, [0xa799]), (0xa79a, [0xa79b]),
  (0xa79c, [0xa79d]), (0xa79e, [0xa79f]), (0xa7a0, [0xa7a1]), (0xa7a2, [0xa7a3]),
  (0xa7a4, [0xa7a5]), (0xa7a6, [0xa7a7]), (0xa7a8, [0xa7a9]), (0xa7aa, [0x266]),
  (0xa7ab, [0x25c]), (0xa7ac, [0x261]), (0xa7ad, [0x26c]), (0xa7ae, [0x26a]), (0xa7b0, [0x29e]),
  (0xa7b1, [0x287]), (0xa7b2, [0x29d]), (0xa7b3, [0xab53]), (0xa7b4, [0xa7b5]),
  (0xa7b6, [0xa7b7]), (0xa7b8, [0xa7b9]), (0xa7ba, [0xa7bb]), (0xa7bc, [0xa7bd]),
  (0xa7be, [0xa7bf]), (0xa7c0, [0xa7c1]), (0xa7c2, [0xa7c3]), (0xa7c4, [0xa794]),
  (0xa7c5, [0x282]), (0xa7c6, [0x1d8e]), (0xa7c7, [0xa7c8]), (0xa7c9, [0xa7ca]),
  (0xa7d0, [0xa7d1]), (0xa7d6, [0xa7d7]), (0xa7d8, [0xa7d9]), (0xa7f5, [0xa7f6]),
  (0xab70, [0x13a0]), (0xab71, [0x13a1]), (0xab72, [0x13a2]), (0xab73, [0x13a3]),
  (0xab74, [0x13a4]), (0xab75, [0x13a5]), (0xab76, [0x13a6]), (0xab77, [0x13a7]),
  (0xab78, [0x13a8]), (0xab79, [0x13a9]), (0xab7a, [0x13aa]), (0xab7b, [0x13ab]),
  (0xab7c, [0x13ac]), (0xab7d, [0x13ad]), (0xab7e, [0x13ae]), (0xab7f, [0x13af]),
  (0xab80, [0x13b0]), (0xab81, [0x13b1]), (0xab82, [0x13b2]), (0xab83, [0x13b3]),
  (0xab84, [0x13b4]), (0xab85, [0x13b5]), (0xab86, [0x13b6]), (0xab87, [0x13b7]),
  (0xab88, [0x13b8]), (0xab89, [0x13b9]), (0xab8a, [0x13ba]), (0xab8b, [0x13bb]),
  (0xab8c, [0x13bc]), (0xab8d, [0x13bd]), (0xab8e, [0x13be]), (0xab8f, [0x13bf]),
  (0xab90, [0x13c0]), (0xab91, [0x13c1]), (0xab92, [0x13c2]), (0xab93, [0x13c3]),
  (0xab94, [0x13c4]), (0xab95, [0x13c5]), (0xab96, [0x13c6]), (0xab97, [0x13c7]),
  (0xab98, [0x13c8]), (0xab99, [0x13c9]), (0xab9a, [0x13ca]), (0xab9b, [0x13cb]),
  (0xab9c, [0x13cc]), (0xab9d, [0x13cd]), (0xab9e, [0x13ce]), (0xab9f, [0x13cf]),
  (0xaba0, [0x13d0]), (0xaba1, [0x13d1]), (0xaba2, [0x13d2]), (0xaba3, [0x13d3]),
  (0xaba4, [0x13d4]), (0xaba5, [0x13d5]), (0xaba6, [0x13d6]), (0xaba7, [0x13d7]),
  (0xaba8, [0x13d8]), (0xaba9, [0x13d9]), (0xabaa, [0x13da]), (0xabab, [0x13db]),
  (0xabac, [0x13dc]), (0xabad, [0x13dd]), (0xabae, [0x13de]), (0xabaf, [0x13df]),
  (0xabb0, [0x13e0]), (0xabb1, [0x13e1]), (0xabb2, [0x13e2]), (0xabb3, [0x13e3]),
  (0xabb4, [0x13e4]), (0xabb5, [0x13e5]), (0xabb6, [0x13e6]), (0xabb7, [0x13e7]),
  (0xabb8, [0x13e8]), (0xabb9, [0x13e9]), (0xabba, [0x13ea]), (0xabbb, [0x13eb]),
  (0xabbc, [0x13ec]), (0xabbd, [0x13ed]), (0xabbe, [0x13ee]), (0xabbf, [0x13ef]),
  (0xfb00, [0x66, 0x66]), (0xfb01, [0x66, 0x69]), (0xfb02, [0x66, 0x6c]),
  (0xfb03, [0x66, 0x66, 0x69]), (0xfb04, [0x66, 0x66, 0x6c]), (0xfb05, [0x73, 0x74]),
  (0xfb06, [0x73, 0x74]), (0xfb13, [0x574, 0x576]), (0xfb14, [0x574, 0x565]),
  (0xfb15, [0x574, 0x56b]), (0xfb16, [0x57e, 0x576]), (0xfb17, [0x574, 0x56d]),
  (0xff21, [0xff41]), (0xff22, [0xff42]), (0xff23, [0xff43]), (0xff24, [0xff44]),
  (0xff25, [0xff45]), (0xff26, [0xff46]), (0xff27, [0xff47]), (0xff28, [0xff48]),
  (0xff29, [0xff49]), (0xff2a, [0xff4a]), (0xff2b, [0xff4b]), (0xff2c, [0xff4c]),
  (0xff2d, [0xff4d]), (0xff2e, [0xff4e]), (0xff2f, [0xff4f]), (0xff30, [0xff50]),
  (0xff31, [0xff51]), (0xff32, [0xff52]), (0xff33, [0xff53]), (0xff34, [0xff54]),
  (0xff35, [0xff55]), (0xff36, [0xff56]), (0xff37, [0xff57]), (0xff38, [0xff58]),
  (0xff39, [0xff59]), (0xff3a, [0xff5a]), (0x10400, [0x10428]), (0x10401, [0x10429]),
  (0x10402, [0x1042a]), (0x10403, [0x1042b]), (0x10404, [0x1042c]), (0x10405, [0x1042d]),
  (0x10406, [0x1042e]), (0x10407, [0x1042f]), (0x10408, [0x10430]), (0x10409, [0x10431]),
  (0x1040a, [0x10432]), (0x1040b, [0x10433]), (0x1040c, [0x10434]), (0x1040d, [0x10435]),
  (0x1040e, [0x10436]), (0x1040f, [0x10437]), (0x10410, [0x10438]), (0x10411, [0x10439]),
  (0x10412, [0x1043a]), (0x10413, [0x1043b]), (0x10414, [0x1043c]), (0x10415, [0x1043d]),
  (0x10416, [0x1043e]), (0x10417, [0x1043f]), (0x10418, [0x10440]), (0x10419, [0x10441]),
  (0x1041a, [0x10442]), (0x1041b, [0x10443]), (0x1041c, [0x10444]), (0x1041d, [0x10445]),
  (0x1041e, [0x10446]), (0x1041f, [0x10447]), (0x10420, [0x10448]), (0x10421, [0x10449]),
  (0x10422, [0x1044a]), (0x10423, [0x1044b]), (0x10424, [0x1044c]), (0x10425, [0x1044d]),
  (0x10426, [0x1044e]), (0x10427, [0x1044f]), (0x104b0, [0x104d8]), (0x104b1, [0x104d9]),
  (0x104b2, [0x104da]), (0x104b3, [0x104db]), (0x104b4, [0x104dc]), (0x104b5, [0x104dd]),
  (0x104b6, [0x104de]), (0x104b7, [0x104df]), (0x104b8, [0x104e0]), (0x104b9, [0x104e1]),
  (0x104ba, [0x104e2]), (0x104bb, [0x104e3]), (0x104bc, [0x104e4]), (0x104bd, [0x104e5]),
  (0x104be, [0x104e6]), (0x104bf, [0x104e7]), (0x104c0, [0x104e8]), (0x104c1, [0x104e9]),
  (0x104c2, [0x104ea]), (0x104c3, [0x104eb]), (0x104c4, [0x104ec]), (0x104c5, [0x104ed]),
  (0x104c6, [0x104ee]), (0x104c7, [0x104ef]), (0x104c8, [0x104f0]), (0x104c9, [0x104f1]),
  (0x104ca, [0x104f2]), (0x104cb, [0x104f3]), (0x104cc, [0x104f4]), (0x104cd, [0x104f5]),
  (0x104ce, [0x104f6]), (0x104cf, [0x104f7]), (0x104d0, [0x104f8]), (0x104d1, [0x104f9]),
  (0x104d2, [0x104fa]), (0x104d3, [0x104fb]), (0x10570, [0x10597]), (0x10571, [0x10598]),
  (0x10572, [0x10599]), (0x10573, [0x1059a]), (0x10574, [0x1059b]), (0x10575, [0x1059c]),
  (0x10576, [0x1059d]), (0x10577, [0x1059e]), (0x10578, [0x1059f]), (0x10579, [0x105a0]),
  (0x1057a, [0x105a1]), (0x1057c, [0x105a3]), (0x1057d, [0x105a4]), (0x1057e, [0x105a5]),
  (0x1057f, [0x105a6]), (0x10580, [0x105a7]), (0x10581, [0x105a8]), (0x10582, [0x105a9]),
  (0x10583, [0x105aa]), (0x10584, [0x105ab]), (0x10585, [0x105ac]), (0x10586, [0x105ad]),
  (0x10587, [0x105ae]), (0x10588, [0x105af]), (0x10589, [0x105b0]), (0x1058a, [0x105b1]),
  (0x1058c, [0x105b3]), (0x1058d, [0x105b4]), (0x1058e, [0x105b5]), (0x1058f, [0x105b6]),
  (0x10590, [0x105b7]), (0x10591, [0x105b8]), (0x10592, [0x105b9]), (0x10594, [0x105bb]),
  (0x10595, [0x105bc]), (0x10c80, [0x10cc0]), (0x10c81, [0x10cc1]), (0x10c82, [0x10cc2]),
  (0x10c83, [0x10cc3]), (0x10c84, [0x10cc4]), (0x10c85, [0x10cc5]), (0x10c86, [0x10cc6]),
  (0x10c87, [0x10cc7]), (0x10c88, [0x10cc8]), (0x10c89, [0x10cc9]), (0x10c8a, [0x10cca]),
  (0x10c8b, [0x10ccb]), (0x10c8c, [0x10ccc]), (0x10c8d, [0x10ccd]), (0x10c8e, [0x10cce]),
  (0x10c8f, [0x10ccf]), (0x10c90, [0x10cd0]), (0x10c91, [0x10cd1]), (0x10c92, [0x10cd2]),
  (0x10c93, [0x10cd3]), (0x10c94, [0x10cd4]), (0x10c95, [0x10cd5]), (0x10c96, [0x10cd6]),
  (0x10c97, [0x10cd7]), (0x10c98, [0x10cd8]), (0x10c99, [0x10cd9]), (0x10c9a, [0x10cda]),
  (0x10c9b, [0x10cdb]), (0x10c9c, [0x10cdc]), (0x10c9d, [0x10cdd]), (0x10c9e, [0x10cde]),
  (0x10c9f, [0x10cdf]), (0x10ca0, [0x10ce0]), (0x10ca1, [0x10ce1]), (0x10ca2, [0x10ce2]),
  (0x10ca3, [0x10ce3]), (0x10ca4, [0x10ce4]), (0x10ca5, [0x10ce5]), (0x10ca6, [0x10ce6]),
  (0x10ca7, [0x10ce7]), (0x10ca8, [0x10ce8]), (0x10ca9, [0x10ce9]), (0x10caa, [0x10cea]),
  (0x10cab, [0x10ceb]), (0x10cac, [0x10cec]), (0x10cad, [0x10ced]), (0x10cae, [0x10cee]),
  (0x10caf, [0x10cef]), (0x10cb0, [0x10cf0]), (0x10cb1, [0x10cf1]), (0x10cb2, [0x10cf2]),
  (0x118a0, [0x118c0]), (0x118a1, [0x118c1]), (0x118a2, [0x118c2]), (0x118a3, [0x118c3]),
  (0x118a4, [0x118c4]), (0x118a5, [0x118c5]), (0x118a6, [0x118c6]), (0x118a7, [0x118c7]),
  (0x118a8, [0x118c8]), (0x118a9, [0x118c9]), (0x118aa, [0x118ca]), (0x118ab, [0x118cb]),
  (0x118ac, [0x118cc]), (0x118ad, [0x118cd]), (0x118ae, [0x118ce]), (0x118af, [0x118cf]),
  (0x118b0, [0x118d0]), (0x118b1, [0x118d1]), (0x118b2, [0x118d2]), (0x118b3, [0x118d3]),
  (0x118b4, [0x118d4]), (0x118b5, [0x118d5]), (0x118b6, [0x118d6]), (0x118b7, [0x118d7]),
  (0x118b8, [0x118d8]), (0x118b9, [0x118d9]), (0x118ba, [0x118da]), (0x118bb, [0x118db]),
  (0x118bc, [0x118dc]), (0x118bd, [0x118dd]), (0x118be, [0x118de]), (0x118bf, [0x118df]),
  (0x16e40, [0x16e60]), (0x16e41, [0x16e61]), (0x16e42, [0x16e62]), (0x16e43, [0x16e63]),
  (0x16e44, [0x16e64]), (0x16e45, [0x16e65]), (0x16e46, [0x16e66]), (0x16e47, [0x16e67]),
  (0x16e48, [0x16e68]), (0x16e49, [0x16e69]), (0x16e4a, [0x16e6a]), (0x16e4b, [0x16e6b]),
  (0x16e4c, [0x16e6c]), (0x16e4d, [0x16e6d]), (0x16e4e, [0x16e6e]), (0x16e4f, [0x16e6f]),
  (0x16e50, [0x16e70]), (0x16e51, [0x16e71]), (0x16e52, [0x16e72]), (0x16e53, [0x16e73]),
  (0x16e54, [0x16e74]), (0x16e55, [0x16e75]), (0x16e56, [0x16e76]), (0x16e57, [0x16e77]),
  (0x16e58, [0x16e78]), (0x16e59, [0x16e79]), (0x16e5a, [0x16e7a]), (0x16e5b, [0x16e7b]),
  (0x16e5c, [0x16e7c]), (0x16e5d, [0x16e7d]), (0x16e5e, [0x16e7e]), (0x16e5f, [0x16e7f]),
  (0x1e900, [0x1e922]), (0x1e901, [0x1e923]), (0x1e902, [0x1e924]), (0x1e903, [0x1e925]),
  (0x1e904, [0x1e926]), (0x1e905, [0x1e927]), (0x1e906, [0x1e928]), (0x1e907, [0x1e929]),
  (0x1e908, [0x1e92a]), (0x1e909, [0x1e92b]), (0x1e90a, [0x1e92c]), (0x1e90b, [0x1e92d]),
  (0x1e90c, [0x1e92e]), (0x1e90d, [0x1e92f]), (0x1e90e, [0x1e930]), (0x1e90f, [0x1e931]),
  (0x1e910, [0x1e932]), (0x1e911, [0x1e933]), (0x1e912, [0x1e934]), (0x1e913, [0x1e935]),
  (0x1e914, [0x1e936]), (0x1e915, [0x1e937]), (0x1e916, [0x1e938]), (0x1e917, [0x1e939]),
  (0x1e918, [0x1e93a]), (0x1e919, [0x1e93b]), (0x1e91a, [0x1e93c]), (0x1e91b, [0x1e93d]),
  (0x1e91c, [0x1e93e]), (0x1e91d, [0x1e93f]), (0x1e91e, [0x1e940]), (0x1e91f, [0x1e941]),
  (0x1e920, [0x1e942]), (0x1e921, [0x1e943])]

end ScopeTokenizer.Unicode.CaseMapping
