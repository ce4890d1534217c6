/-!
# Characters of names of hosts

The characters behind ASCII that stay as they are when a name of a host is prepared.
-/

namespace Workshop.Text.Charset.HostName

/-- These characters: the numbers of the first and the last one of each run, and the distance of
neighbours in it. -/
def kept : List (Nat × Nat × Nat) :=
  [ (0xa1, 0xa7, 1), (0xa9, 0xa9, 1), (0xab, 0xac, 1), (0xae, 0xae, 1), (0xb0, 0xb1, 1),
    (0xb6, 0xb7, 1), (0xbb, 0xbb, 1), (0xbf, 0xbf, 1), (0xd7, 0xd7, 1), (0xe0, 0xff, 1),
    (0x101, 0x131, 2), (0x135, 0x135, 1), (0x137, 0x138, 1), (0x13a, 0x13e, 2), (0x142, 0x148, 2),
    (0x14b, 0x177, 2), (0x17a, 0x180, 2), (0x183, 0x183, 1), (0x185, 0x185, 1), (0x188, 0x188, 1),
    (0x18c, 0x18d, 1), (0x192, 0x192, 1), (0x195, 0x195, 1), (0x199, 0x19b, 1), (0x19e, 0x19e, 1),
    (0x1a1, 0x1a5, 2), (0x1a8, 0x1a8, 1), (0x1aa, 0x1ab, 1), (0x1ad, 0x1ad, 1), (0x1b0, 0x1b0, 1),
    (0x1b4, 0x1b4, 1), (0x1b6, 0x1b6, 1), (0x1b9, 0x1bb, 1), (0x1bd, 0x1c3, 1), (0x1ce, 0x1da, 2),
    (0x1dc, 0x1dd, 1), (0x1df, 0x1ed, 2), (0x1ef, 0x1f0, 1), (0x1f5, 0x1f5, 1), (0x1f9, 0x231, 2),
    (0x233, 0x239, 1), (0x23c, 0x23c, 1), (0x23f, 0x240, 1), (0x242, 0x242, 1), (0x247, 0x24d, 2),
    (0x24f, 0x2af, 1), (0x2b9, 0x2d7, 1), (0x2de, 0x2df, 1), (0x2e5, 0x33f, 1), (0x342, 0x342, 1),
    (0x346, 0x34e, 1), (0x350, 0x36f, 1), (0x371, 0x375, 2), (0x377, 0x379, 1), (0x37b, 0x37d, 1),
    (0x380, 0x383, 1), (0x38b, 0x38b, 1), (0x38d, 0x38d, 1), (0x390, 0x390, 1), (0x3a2, 0x3a2, 1),
    (0x3ac, 0x3c1, 1), (0x3c3, 0x3ce, 1), (0x3d7, 0x3ef, 2), (0x3f3, 0x3f3, 1), (0x3f6, 0x3f6, 1),
    (0x3f8, 0x3f8, 1), (0x3fb, 0x3fc, 1), (0x430, 0x45f, 1), (0x461, 0x47f, 2), (0x481, 0x489, 1),
    (0x48b, 0x4bf, 2), (0x4c2, 0x4cc, 2), (0x4ce, 0x4cf, 1), (0x4d1, 0x52d, 2), (0x52f, 0x530, 1),
    (0x557, 0x586, 1), (0x588, 0x674, 1), (0x679, 0x6dc, 1), (0x6de, 0x70e, 1), (0x710, 0x957, 1),
    (0x960, 0x9db, 1), (0x9de, 0x9de, 1), (0x9e0, 0xa32, 1), (0xa34, 0xa35, 1), (0xa37, 0xa58, 1),
    (0xa5c, 0xa5d, 1), (0xa5f, 0xb5b, 1), (0xb5e, 0xe32, 1), (0xe34, 0xeb2, 1), (0xeb4, 0xedb, 1),
    (0xede, 0xf0b, 1), (0xf0d, 0xf42, 1), (0xf44, 0xf4c, 1), (0xf4e, 0xf51, 1), (0xf53, 0xf56, 1),
    (0xf58, 0xf5b, 1), (0xf5d, 0xf68, 1), (0xf6a, 0xf72, 1), (0xf74, 0xf74, 1), (0xf7a, 0xf80, 1),
    (0xf82, 0xf92, 1), (0xf94, 0xf9c, 1), (0xf9e, 0xfa1, 1), (0xfa3, 0xfa6, 1), (0xfa8, 0xfab, 1),
    (0xfad, 0xfb8, 1), (0xfba, 0x109f, 1), (0x10c6, 0x10c6, 1), (0x10c8, 0x10cc, 1),
    (0x10ce, 0x139f, 1), (0x13f6, 0x167f, 1), (0x1681, 0x1805, 1), (0x1807, 0x180a, 1),
    (0x180f, 0x1c8f, 1), (0x1cbb, 0x1cbc, 1), (0x1cc0, 0x1dff, 1), (0x1e01, 0x1e93, 2),
    (0x1e95, 0x1e99, 1), (0x1e9c, 0x1e9d, 1), (0x1e9f, 0x1efd, 2), (0x1eff, 0x1f07, 1),
    (0x1f10, 0x1f17, 1), (0x1f1e, 0x1f27, 1), (0x1f30, 0x1f37, 1), (0x1f40, 0x1f47, 1),
    (0x1f4e, 0x1f58, 1), (0x1f5a, 0x1f5e, 2), (0x1f60, 0x1f67, 1), (0x1f70, 0x1f7c, 2),
    (0x1f7e, 0x1f7f, 1), (0x1fb0, 0x1fb1, 1), (0x1fb5, 0x1fb6, 1), (0x1fc5, 0x1fc6, 1),
    (0x1fd0, 0x1fd2, 1), (0x1fd4, 0x1fd7, 1), (0x1fdc, 0x1fdc, 1), (0x1fe0, 0x1fe2, 1),
    (0x1fe4, 0x1fe7, 1), (0x1ff0, 0x1ff1, 1), (0x1ff5, 0x1ff6, 1), (0x1fff, 0x1fff, 1),
    (0x2010, 0x2010, 1), (0x2012, 0x2016, 1), (0x2018, 0x2023, 1), (0x2027, 0x2027, 1),
    (0x2030, 0x2032, 1), (0x2035, 0x2035, 1), (0x2038, 0x203b, 1), (0x203d, 0x203d, 1),
    (0x203f, 0x2046, 1), (0x204a, 0x2056, 1), (0x2058, 0x205e, 1), (0x2064, 0x2069, 1),
    (0x2072, 0x2073, 1), (0x208f, 0x20a7, 1), (0x20a9, 0x20ff, 1), (0x2104, 0x2104, 1),
    (0x2108, 0x2108, 1), (0x2114, 0x2114, 1), (0x2117, 0x2118, 1), (0x211e, 0x211f, 1),
    (0x2123, 0x2129, 2), (0x212e, 0x212e, 1), (0x213a, 0x213c, 1), (0x2141, 0x2144, 1),
    (0x214a, 0x2152, 1), (0x2180, 0x2182, 1), (0x2184, 0x222b, 1), (0x222e, 0x222e, 1),
    (0x2231, 0x2328, 1), (0x232b, 0x245f, 1), (0x24eb, 0x2a0b, 1), (0x2a0d, 0x2a73, 1),
    (0x2a77, 0x2adb, 1), (0x2add, 0x2bff, 1), (0x2c30, 0x2c5f, 1), (0x2c61, 0x2c61, 1),
    (0x2c65, 0x2c66, 1), (0x2c68, 0x2c6c, 2), (0x2c71, 0x2c71, 1), (0x2c73, 0x2c74, 1),
    (0x2c76, 0x2c7d, 1), (0x2c81, 0x2ce1, 2), (0x2ce3, 0x2cea, 1), (0x2cec, 0x2cec, 1),
    (0x2cee, 0x2cf1, 1), (0x2cf3, 0x2e9e, 1), (0x2ea0, 0x2ef2, 1), (0x2ef4, 0x2eff, 1),
    (0x2fd6, 0x2fef, 1), (0x2ffc, 0x2fff, 1), (0x3001, 0x3035, 1), (0x3037, 0x3037, 1),
    (0x303b, 0x309a, 1), (0x309d, 0x309e, 1), (0x30a0, 0x30fe, 1), (0x3100, 0x3130, 1),
    (0x318f, 0x3191, 1), (0x31a0, 0x31ff, 1), (0x321d, 0x321f, 1), (0x3244, 0x3250, 1),
    (0x327c, 0x327f, 1), (0x32cc, 0x32cf, 1), (0x32ff, 0x32ff, 1), (0x3377, 0x337a, 1),
    (0x33de, 0x33df, 1), (0x33ff, 0xa63f, 1), (0xa641, 0xa66b, 2), (0xa66d, 0xa67f, 1),
    (0xa681, 0xa699, 2), (0xa69b, 0xa721, 1), (0xa723, 0xa72d, 2), (0xa72f, 0xa731, 1),
    (0xa733, 0xa76d, 2), (0xa76f, 0xa778, 1), (0xa77a, 0xa77a, 1), (0xa77c, 0xa77c, 1),
    (0xa77f, 0xa785, 2), (0xa787, 0xa78a, 1), (0xa78c, 0xa78c, 1), (0xa78e, 0xa78f, 1),
    (0xa791, 0xa791, 1), (0xa793, 0xa795, 1), (0xa797, 0xa7a9, 2), (0xa7af, 0xa7af, 1),
    (0xa7b5, 0xa7c3, 2), (0xa7c8, 0xa7c8, 1), (0xa7ca, 0xa7cf, 1), (0xa7d1, 0xa7d5, 1),
    (0xa7d7, 0xa7d7, 1), (0xa7d9, 0xa7f4, 1), (0xa7f6, 0xd7ff, 1), (0xfa0e, 0xfa0f, 1),
    (0xfa11, 0xfa11, 1), (0xfa13, 0xfa14, 1), (0xfa1f, 0xfa1f, 1), (0xfa21, 0xfa21, 1),
    (0xfa23, 0xfa24, 1), (0xfa27, 0xfa29, 1), (0xfa2e, 0xfa2f, 1), (0xfa6b, 0xfaff, 1),
    (0xfb07, 0xfb12, 1), (0xfb18, 0xfb1c, 1), (0xfb1e, 0xfb1e, 1), (0xfb37, 0xfb37, 1),
    (0xfb3d, 0xfb3d, 1), (0xfb3f, 0xfb3f, 1), (0xfb42, 0xfb42, 1), (0xfb45, 0xfb45, 1),
    (0xfbb2, 0xfbd2, 1), (0xfd3e, 0xfd4f, 1), (0xfd90, 0xfd91, 1), (0xfdc8, 0xfdcf, 1),
    (0xfdfd, 0xfdff, 1), (0xfe10, 0xfe2f, 1), (0xfe45, 0xfe48, 1), (0xfe53, 0xfe53, 1),
    (0xfe67, 0xfe67, 1), (0xfe6c, 0xfe6f, 1), (0xfe73, 0xfe73, 1), (0xfe75, 0xfe75, 1),
    (0xfefd, 0xfefe, 1), (0xff00, 0xff00, 1), (0xffbf, 0xffc1, 1), (0xffc8, 0xffc9, 1),
    (0xffd0, 0xffd1, 1), (0xffd8, 0xffd9, 1), (0xffdd, 0xffdf, 1), (0xffe7, 0xffe7, 1),
    (0xffef, 0xfff8, 1), (0x10000, 0x103ff, 1), (0x10428, 0x104af, 1), (0x104d4, 0x1056f, 1),
    (0x1057b, 0x1057b, 1), (0x1058b, 0x1058b, 1), (0x10593, 0x10593, 1), (0x10596, 0x10c7f, 1),
    (0x10cb3, 0x1189f, 1), (0x118c0, 0x16e3f, 1), (0x16e60, 0x1d15d, 1), (0x1d165, 0x1d172, 1),
    (0x1d17b, 0x1d1ba, 1), (0x1d1c1, 0x1d3ff, 1), (0x1d455, 0x1d455, 1), (0x1d49d, 0x1d49d, 1),
    (0x1d4a0, 0x1d4a1, 1), (0x1d4a3, 0x1d4a4, 1), (0x1d4a7, 0x1d4a8, 1), (0x1d4ad, 0x1d4ad, 1),
    (0x1d4ba, 0x1d4ba, 1), (0x1d4bc, 0x1d4bc, 1), (0x1d4c1, 0x1d4c1, 1), (0x1d4c4, 0x1d4c4, 1),
    (0x1d506, 0x1d506, 1), (0x1d50b, 0x1d50c, 1), (0x1d515, 0x1d515, 1), (0x1d51d, 0x1d51d, 1),
    (0x1d53a, 0x1d53a, 1), (0x1d53f, 0x1d53f, 1), (0x1d545, 0x1d545, 1), (0x1d547, 0x1d549, 1),
    (0x1d551, 0x1d551, 1), (0x1d6a4, 0x1d6a7, 1), (0x1d7ca, 0x1d7cd, 1), (0x1d800, 0x1e8ff, 1),
    (0x1e922, 0x1fffd, 1), (0x20000, 0x2f7ff, 1), (0x2fa1e, 0x2fffd, 1), (0x30000, 0x3fffd, 1),
    (0x40000, 0x4fffd, 1), (0x50000, 0x5fffd, 1), (0x60000, 0x6fffd, 1), (0x70000, 0x7fffd, 1),
    (0x80000, 0x8fffd, 1), (0x90000, 0x9fffd, 1), (0xa0000, 0xafffd, 1), (0xb0000, 0xbfffd, 1),
    (0xc0000, 0xcfffd, 1), (0xd0000, 0xdfffd, 1), (0xe0000, 0xe0000, 1), (0xe0002, 0xe001f, 1),
    (0xe0080, 0xefffd, 1) ]

/-- Whether the character with a number stays as it is.  Capitals of ASCII become small ones, which
does not matter. -/
def isKept (n : Nat) : Bool :=
  n < 0x80 || kept.any fun (first, last, step) =>
    first ≤ n && n ≤ last && (n - first) % step == 0

end Workshop.Text.Charset.HostName
