import CloudMetrics.Text.Ranges

/-!
# Combining marks

Characters that are written onto the one before them: those that take no room, and those that do. Each
has a class, which orders the marks of one character; zero is the class of all other characters. A mark
of class 9 suppresses a vowel.
-/
namespace CloudMetrics.Text

def nonspacingMarks : List (Nat × Nat × Nat) :=
  [(0x300,0x314,230),(0x315,0x315,232),(0x316,0x319,220),(0x31A,0x31A,232),(0x31B,0x31B,216),
   (0x31C,0x320,220),(0x321,0x322,202),(0x323,0x326,220),(0x327,0x328,202),(0x329,0x333,220),
   (0x334,0x338,1),(0x339,0x33C,220),(0x33D,0x344,230),(0x345,0x345,240),(0x346,0x346,230),
   (0x347,0x349,220),(0x34A,0x34C,230),(0x34D,0x34E,220),(0x34F,0x34F,0),(0x350,0x352,230),
   (0x353,0x356,220),(0x357,0x357,230),(0x358,0x358,232),(0x359,0x35A,220),(0x35B,0x35B,230),
   (0x35C,0x35C,233),(0x35D,0x35E,234),(0x35F,0x35F,233),(0x360,0x361,234),(0x362,0x362,233),
   (0x363,0x36F,230),(0x483,0x487,230),(0x488,0x489,0),(0x591,0x591,220),(0x592,0x595,230),
   (0x596,0x596,220),(0x597,0x599,230),(0x59A,0x59A,222),(0x59B,0x59B,220),(0x59C,0x5A1,230),
   (0x5A2,0x5A7,220),(0x5A8,0x5A9,230),(0x5AA,0x5AA,220),(0x5AB,0x5AC,230),(0x5AD,0x5AD,222),
   (0x5AE,0x5AE,228),(0x5AF,0x5AF,230),(0x5B0,0x5B0,10),(0x5B1,0x5B1,11),(0x5B2,0x5B2,12),
   (0x5B3,0x5B3,13),(0x5B4,0x5B4,14),(0x5B5,0x5B5,15),(0x5B6,0x5B6,16),(0x5B7,0x5B7,17),
   (0x5B8,0x5B8,18),(0x5B9,0x5BA,19),(0x5BB,0x5BB,20),(0x5BC,0x5BC,21),(0x5BD,0x5BD,22),
   (0x5BF,0x5BF,23),(0x5C1,0x5C1,24),(0x5C2,0x5C2,25),(0x5C4,0x5C4,230),(0x5C5,0x5C5,220),
   (0x5C7,0x5C7,18),(0x610,0x617,230),(0x618,0x618,30),(0x619,0x619,31),(0x61A,0x61A,32),
   (0x64B,0x64B,27),(0x64C,0x64C,28),(0x64D,0x64D,29),(0x64E,0x64E,30),(0x64F,0x64F,31),
   (0x650,0x650,32),(0x651,0x651,33),(0x652,0x652,34),(0x653,0x654,230),(0x655,0x656,220),
   (0x657,0x65B,230),(0x65C,0x65C,220),(0x65D,0x65E,230),(0x65F,0x65F,220),(0x670,0x670,35),
   (0x6D6,0x6DC,230),(0x6DF,0x6E2,230),(0x6E3,0x6E3,220),(0x6E4,0x6E4,230),(0x6E7,0x6E8,230),
   (0x6EA,0x6EA,220),(0x6EB,0x6EC,230),(0x6ED,0x6ED,220),(0x711,0x711,36),(0x730,0x730,230),
   (0x731,0x731,220),(0x732,0x733,230),(0x734,0x734,220),(0x735,0x736,230),(0x737,0x739,220),
   (0x73A,0x73A,230),(0x73B,0x73C,220),(0x73D,0x73D,230),(0x73E,0x73E,220),(0x73F,0x741,230),
   (0x742,0x742,220),(0x743,0x743,230),(0x744,0x744,220),(0x745,0x745,230),(0x746,0x746,220),
   (0x747,0x747,230),(0x748,0x748,220),(0x749,0x74A,230),(0x7A6,0x7B0,0),(0x7EB,0x7F1,230),
   (0x7F2,0x7F2,220),(0x7F3,0x7F3,230),(0x7FD,0x7FD,220),(0x816,0x819,230),(0x81B,0x823,230),
   (0x825,0x827,230),(0x829,0x82D,230),(0x859,0x85B,220),(0x897,0x898,230),(0x899,0x89B,220),
   (0x89C,0x89F,230),(0x8CA,0x8CE,230),(0x8CF,0x8D3,220),(0x8D4,0x8E1,230),(0x8E3,0x8E3,220),
   (0x8E4,0x8E5,230),(0x8E6,0x8E6,220),(0x8E7,0x8E8,230),(0x8E9,0x8E9,220),(0x8EA,0x8EC,230),
   (0x8ED,0x8EF,220),(0x8F0,0x8F0,27),(0x8F1,0x8F1,28),(0x8F2,0x8F2,29),(0x8F3,0x8F5,230),
   (0x8F6,0x8F6,220),(0x8F7,0x8F8,230),(0x8F9,0x8FA,220),(0x8FB,0x8FF,230),(0x900,0x902,0),
   (0x93A,0x93A,0),(0x93C,0x93C,7),(0x941,0x948,0),(0x94D,0x94D,9),(0x951,0x951,230),
   (0x952,0x952,220),(0x953,0x954,230),(0x955,0x957,0),(0x962,0x963,0),(0x981,0x981,0),
   (0x9BC,0x9BC,7),(0x9C1,0x9C4,0),(0x9CD,0x9CD,9),(0x9E2,0x9E3,0),(0x9FE,0x9FE,230),
   (0xA01,0xA02,0),(0xA3C,0xA3C,7),(0xA41,0xA42,0),(0xA47,0xA48,0),(0xA4B,0xA4C,0),(0xA4D,0xA4D,9),
   (0xA51,0xA51,0),(0xA70,0xA71,0),(0xA75,0xA75,0),(0xA81,0xA82,0),(0xABC,0xABC,7),(0xAC1,0xAC5,0),
   (0xAC7,0xAC8,0),(0xACD,0xACD,9),(0xAE2,0xAE3,0),(0xAFA,0xAFF,0),(0xB01,0xB01,0),(0xB3C,0xB3C,7),
   (0xB3F,0xB3F,0),(0xB41,0xB44,0),(0xB4D,0xB4D,9),(0xB55,0xB56,0),(0xB62,0xB63,0),(0xB82,0xB82,0),
   (0xBC0,0xBC0,0),(0xBCD,0xBCD,9),(0xC00,0xC00,0),(0xC04,0xC04,0),(0xC3C,0xC3C,7),(0xC3E,0xC40,0),
   (0xC46,0xC48,0),(0xC4A,0xC4C,0),(0xC4D,0xC4D,9),(0xC55,0xC55,84),(0xC56,0xC56,91),
   (0xC62,0xC63,0),(0xC81,0xC81,0),(0xCBC,0xCBC,7),(0xCBF,0xCBF,0),(0xCC6,0xCC6,0),(0xCCC,0xCCC,0),
   (0xCCD,0xCCD,9),(0xCE2,0xCE3,0),(0xD00,0xD01,0),(0xD3B,0xD3C,9),(0xD41,0xD44,0),(0xD4D,0xD4D,9),
   (0xD62,0xD63,0),(0xD81,0xD81,0),(0xDCA,0xDCA,9),(0xDD2,0xDD4,0),(0xDD6,0xDD6,0),(0xE31,0xE31,0),
   (0xE34,0xE37,0),(0xE38,0xE39,103),(0xE3A,0xE3A,9),(0xE47,0xE47,0),(0xE48,0xE4B,107),
   (0xE4C,0xE4E,0),(0xEB1,0xEB1,0),(0xEB4,0xEB7,0),(0xEB8,0xEB9,118),(0xEBA,0xEBA,9),
   (0xEBB,0xEBC,0),(0xEC8,0xECB,122),(0xECC,0xECE,0),(0xF18,0xF19,220),(0xF35,0xF35,220),
   (0xF37,0xF37,220),(0xF39,0xF39,216),(0xF71,0xF71,129),(0xF72,0xF72,130),(0xF73,0xF73,0),
   (0xF74,0xF74,132),(0xF75,0xF79,0),(0xF7A,0xF7D,130),(0xF7E,0xF7E,0),(0xF80,0xF80,130),
   (0xF81,0xF81,0),(0xF82,0xF83,230),(0xF84,0xF84,9),(0xF86,0xF87,230),(0xF8D,0xF97,0),
   (0xF99,0xFBC,0),(0xFC6,0xFC6,220),(0x102D,0x1030,0),(0x1032,0x1036,0),(0x1037,0x1037,7),
   (0x1039,0x103A,9),(0x103D,0x103E,0),(0x1058,0x1059,0),(0x105E,0x1060,0),(0x1071,0x1074,0),
   (0x1082,0x1082,0),(0x1085,0x1086,0),(0x108D,0x108D,220),(0x109D,0x109D,0),(0x135D,0x135F,230),
   (0x1712,0x1713,0),(0x1714,0x1714,9),(0x1732,0x1733,0),(0x1752,0x1753,0),(0x1772,0x1773,0),
   (0x17B4,0x17B5,0),(0x17B7,0x17BD,0),(0x17C6,0x17C6,0),(0x17C9,0x17D1,0),(0x17D2,0x17D2,9),
   (0x17D3,0x17D3,0),(0x17DD,0x17DD,230),(0x180B,0x180D,0),(0x180F,0x180F,0),(0x1885,0x1886,0),
   (0x18A9,0x18A9,228),(0x1920,0x1922,0),(0x1927,0x1928,0),(0x1932,0x1932,0),(0x1939,0x1939,222),
   (0x193A,0x193A,230),(0x193B,0x193B,220),(0x1A17,0x1A17,230),(0x1A18,0x1A18,220),
   (0x1A1B,0x1A1B,0),(0x1A56,0x1A56,0),(0x1A58,0x1A5E,0),(0x1A60,0x1A60,9),(0x1A62,0x1A62,0),
   (0x1A65,0x1A6C,0),(0x1A73,0x1A74,0),(0x1A75,0x1A7C,230),(0x1A7F,0x1A7F,220),(0x1AB0,0x1AB4,230),
   (0x1AB5,0x1ABA,220),(0x1ABB,0x1ABC,230),(0x1ABD,0x1ABD,220),(0x1ABE,0x1ABE,0),
   (0x1ABF,0x1AC0,220),(0x1AC1,0x1AC2,230),(0x1AC3,0x1AC4,220),(0x1AC5,0x1AC9,230),
   (0x1ACA,0x1ACA,220),(0x1ACB,0x1ADC,230),(0x1ADD,0x1ADD,220),(0x1AE0,0x1AE5,230),
   (0x1AE6,0x1AE6,220),(0x1AE7,0x1AEA,230),(0x1AEB,0x1AEB,234),(0x1B00,0x1B03,0),(0x1B34,0x1B34,7),
   (0x1B36,0x1B3A,0),(0x1B3C,0x1B3C,0),(0x1B42,0x1B42,0),(0x1B6B,0x1B6B,230),(0x1B6C,0x1B6C,220),
   (0x1B6D,0x1B73,230),(0x1B80,0x1B81,0),(0x1BA2,0x1BA5,0),(0x1BA8,0x1BA9,0),(0x1BAB,0x1BAB,9),
   (0x1BAC,0x1BAD,0),(0x1BE6,0x1BE6,7),(0x1BE8,0x1BE9,0),(0x1BED,0x1BED,0),(0x1BEF,0x1BF1,0),
   (0x1C2C,0x1C33,0),(0x1C36,0x1C36,0),(0x1C37,0x1C37,7),(0x1CD0,0x1CD2,230),(0x1CD4,0x1CD4,1),
   (0x1CD5,0x1CD9,220),(0x1CDA,0x1CDB,230),(0x1CDC,0x1CDF,220),(0x1CE0,0x1CE0,230),
   (0x1CE2,0x1CE8,1),(0x1CED,0x1CED,220),(0x1CF4,0x1CF4,230),(0x1CF8,0x1CF9,230),
   (0x1DC0,0x1DC1,230),(0x1DC2,0x1DC2,220),(0x1DC3,0x1DC9,230),(0x1DCA,0x1DCA,220),
   (0x1DCB,0x1DCC,230),(0x1DCD,0x1DCD,234),(0x1DCE,0x1DCE,214),(0x1DCF,0x1DCF,220),
   (0x1DD0,0x1DD0,202),(0x1DD1,0x1DF5,230),(0x1DF6,0x1DF6,232),(0x1DF7,0x1DF8,228),
   (0x1DF9,0x1DF9,220),(0x1DFA,0x1DFA,218),(0x1DFB,0x1DFB,230),(0x1DFC,0x1DFC,233),
   (0x1DFD,0x1DFD,220),(0x1DFE,0x1DFE,230),(0x1DFF,0x1DFF,220),(0x20D0,0x20D1,230),
   (0x20D2,0x20D3,1),(0x20D4,0x20D7,230),(0x20D8,0x20DA,1),(0x20DB,0x20DC,230),(0x20DD,0x20E0,0),
   (0x20E1,0x20E1,230),(0x20E2,0x20E4,0),(0x20E5,0x20E6,1),(0x20E7,0x20E7,230),(0x20E8,0x20E8,220),
   (0x20E9,0x20E9,230),(0x20EA,0x20EB,1),(0x20EC,0x20EF,220),(0x20F0,0x20F0,230),
   (0x2CEF,0x2CF1,230),(0x2D7F,0x2D7F,9),(0x2DE0,0x2DFF,230),(0x302A,0x302A,218),
   (0x302B,0x302B,228),(0x302C,0x302C,232),(0x302D,0x302D,222),(0x3099,0x309A,8),
   (0xA66F,0xA66F,230),(0xA670,0xA672,0),(0xA674,0xA67D,230),(0xA69E,0xA69F,230),
   (0xA6F0,0xA6F1,230),(0xA802,0xA802,0),(0xA806,0xA806,9),(0xA80B,0xA80B,0),(0xA825,0xA826,0),
   (0xA82C,0xA82C,9),(0xA8C4,0xA8C4,9),(0xA8C5,0xA8C5,0),(0xA8E0,0xA8F1,230),(0xA8FF,0xA8FF,0),
   (0xA926,0xA92A,0),(0xA92B,0xA92D,220),(0xA947,0xA951,0),(0xA980,0xA982,0),(0xA9B3,0xA9B3,7),
   (0xA9B6,0xA9B9,0),(0xA9BC,0xA9BD,0),(0xA9E5,0xA9E5,0),(0xAA29,0xAA2E,0),(0xAA31,0xAA32,0),
   (0xAA35,0xAA36,0),(0xAA43,0xAA43,0),(0xAA4C,0xAA4C,0),(0xAA7C,0xAA7C,0),(0xAAB0,0xAAB0,230),
   (0xAAB2,0xAAB3,230),(0xAAB4,0xAAB4,220),(0xAAB7,0xAAB8,230),(0xAABE,0xAABF,230),
   (0xAAC1,0xAAC1,230),(0xAAEC,0xAAED,0),(0xAAF6,0xAAF6,9),(0xABE5,0xABE5,0),(0xABE8,0xABE8,0),
   (0xABED,0xABED,9),(0xFB1E,0xFB1E,26),(0xFE00,0xFE0F,0),(0xFE20,0xFE26,230),(0xFE27,0xFE2D,220),
   (0xFE2E,0xFE2F,230),(0x101FD,0x101FD,220),(0x102E0,0x102E0,220),(0x10376,0x1037A,230),
   (0x10A01,0x10A03,0),(0x10A05,0x10A06,0),(0x10A0C,0x10A0C,0),(0x10A0D,0x10A0D,220),
   (0x10A0E,0x10A0E,0),(0x10A0F,0x10A0F,230),(0x10A38,0x10A38,230),(0x10A39,0x10A39,1),
   (0x10A3A,0x10A3A,220),(0x10A3F,0x10A3F,9),(0x10AE5,0x10AE5,230),(0x10AE6,0x10AE6,220),
   (0x10D24,0x10D27,230),(0x10D69,0x10D6D,230),(0x10EAB,0x10EAC,230),(0x10EFA,0x10EFB,220),
   (0x10EFC,0x10EFC,0),(0x10EFD,0x10EFF,220),(0x10F46,0x10F47,220),(0x10F48,0x10F4A,230),
   (0x10F4B,0x10F4B,220),(0x10F4C,0x10F4C,230),(0x10F4D,0x10F50,220),(0x10F82,0x10F82,230),
   (0x10F83,0x10F83,220),(0x10F84,0x10F84,230),(0x10F85,0x10F85,220),(0x11001,0x11001,0),
   (0x11038,0x11045,0),(0x11046,0x11046,9),(0x11070,0x11070,9),(0x11073,0x11074,0),
   (0x1107F,0x1107F,9),(0x11080,0x11081,0),(0x110B3,0x110B6,0),(0x110B9,0x110B9,9),
   (0x110BA,0x110BA,7),(0x110C2,0x110C2,0),(0x11100,0x11102,230),(0x11127,0x1112B,0),
   (0x1112D,0x11132,0),(0x11133,0x11134,9),(0x11173,0x11173,7),(0x11180,0x11181,0),
   (0x111B6,0x111BE,0),(0x111C9,0x111C9,0),(0x111CA,0x111CA,7),(0x111CB,0x111CC,0),
   (0x111CF,0x111CF,0),(0x1122F,0x11231,0),(0x11234,0x11234,0),(0x11236,0x11236,7),
   (0x11237,0x11237,0),(0x1123E,0x1123E,0),(0x11241,0x11241,0),(0x112DF,0x112DF,0),
   (0x112E3,0x112E8,0),(0x112E9,0x112E9,7),(0x112EA,0x112EA,9),(0x11300,0x11301,0),
   (0x1133B,0x1133C,7),(0x11340,0x11340,0),(0x11366,0x1136C,230),(0x11370,0x11374,230),
   (0x113BB,0x113C0,0),(0x113CE,0x113CE,9),(0x113D0,0x113D0,9),(0x113D2,0x113D2,0),
   (0x113E1,0x113E2,230),(0x11438,0x1143F,0),(0x11442,0x11442,9),(0x11443,0x11444,0),
   (0x11446,0x11446,7),(0x1145E,0x1145E,230),(0x114B3,0x114B8,0),(0x114BA,0x114BA,0),
   (0x114BF,0x114C0,0),(0x114C2,0x114C2,9),(0x114C3,0x114C3,7),(0x115B2,0x115B5,0),
   (0x115BC,0x115BD,0),(0x115BF,0x115BF,9),(0x115C0,0x115C0,7),(0x115DC,0x115DD,0),
   (0x11633,0x1163A,0),(0x1163D,0x1163D,0),(0x1163F,0x1163F,9),(0x11640,0x11640,0),
   (0x116AB,0x116AB,0),(0x116AD,0x116AD,0),(0x116B0,0x116B5,0),(0x116B7,0x116B7,7),
   (0x1171D,0x1171D,0),(0x1171F,0x1171F,0),(0x11722,0x11725,0),(0x11727,0x1172A,0),
   (0x1172B,0x1172B,9),(0x1182F,0x11837,0),(0x11839,0x11839,9),(0x1183A,0x1183A,7),
   (0x1193B,0x1193C,0),(0x1193E,0x1193E,9),(0x11943,0x11943,7),(0x119D4,0x119D7,0),
   (0x119DA,0x119DB,0),(0x119E0,0x119E0,9),(0x11A01,0x11A0A,0),(0x11A33,0x11A33,0),
   (0x11A34,0x11A34,9),(0x11A35,0x11A38,0),(0x11A3B,0x11A3E,0),(0x11A47,0x11A47,9),
   (0x11A51,0x11A56,0),(0x11A59,0x11A5B,0),(0x11A8A,0x11A96,0),(0x11A98,0x11A98,0),
   (0x11A99,0x11A99,9),(0x11B60,0x11B60,0),(0x11B62,0x11B64,0),(0x11B66,0x11B66,0),
   (0x11C30,0x11C36,0),(0x11C38,0x11C3D,0),(0x11C3F,0x11C3F,9),(0x11C92,0x11CA7,0),
   (0x11CAA,0x11CB0,0),(0x11CB2,0x11CB3,0),(0x11CB5,0x11CB6,0),(0x11D31,0x11D36,0),
   (0x11D3A,0x11D3A,0),(0x11D3C,0x11D3D,0),(0x11D3F,0x11D41,0),(0x11D42,0x11D42,7),
   (0x11D43,0x11D43,0),(0x11D44,0x11D45,9),(0x11D47,0x11D47,0),(0x11D90,0x11D91,0),
   (0x11D95,0x11D95,0),(0x11D97,0x11D97,9),(0x11EF3,0x11EF4,0),(0x11F00,0x11F01,0),
   (0x11F36,0x11F3A,0),(0x11F40,0x11F40,0),(0x11F42,0x11F42,9),(0x11F5A,0x11F5A,0),
   (0x13440,0x13440,0),(0x13447,0x13455,0),(0x1611E,0x16129,0),(0x1612D,0x1612E,0),
   (0x1612F,0x1612F,9),(0x16AF0,0x16AF4,1),(0x16B30,0x16B36,230),(0x16F4F,0x16F4F,0),
   (0x16F8F,0x16F92,0),(0x16FE4,0x16FE4,0),(0x1BC9D,0x1BC9D,0),(0x1BC9E,0x1BC9E,1),
   (0x1CF00,0x1CF2D,0),(0x1CF30,0x1CF46,0),(0x1D167,0x1D169,1),(0x1D17B,0x1D182,220),
   (0x1D185,0x1D189,230),(0x1D18A,0x1D18B,220),(0x1D1AA,0x1D1AD,230),(0x1D242,0x1D244,230),
   (0x1DA00,0x1DA36,0),(0x1DA3B,0x1DA6C,0),(0x1DA75,0x1DA75,0),(0x1DA84,0x1DA84,0),
   (0x1DA9B,0x1DA9F,0),(0x1DAA1,0x1DAAF,0),(0x1E000,0x1E006,230),(0x1E008,0x1E018,230),
   (0x1E01B,0x1E021,230),(0x1E023,0x1E024,230),(0x1E026,0x1E02A,230),(0x1E08F,0x1E08F,230),
   (0x1E130,0x1E136,230),(0x1E2AE,0x1E2AE,230),(0x1E2EC,0x1E2EF,230),(0x1E4EC,0x1E4ED,232),
   (0x1E4EE,0x1E4EE,220),(0x1E4EF,0x1E4EF,230),(0x1E5EE,0x1E5EE,230),(0x1E5EF,0x1E5EF,220),
   (0x1E6E3,0x1E6E3,230),(0x1E6E6,0x1E6E6,230),(0x1E6EE,0x1E6EF,230),(0x1E6F5,0x1E6F5,230),
   (0x1E8D0,0x1E8D6,220),(0x1E944,0x1E949,230),(0x1E94A,0x1E94A,7),(0xE0100,0xE01EF,0)]

def spacingMarks : List (Nat × Nat × Nat) :=
  [(0x903,0x903,0),(0x93B,0x93B,0),(0x93E,0x940,0),(0x949,0x94C,0),(0x94E,0x94F,0),(0x982,0x983,0),
   (0x9BE,0x9C0,0),(0x9C7,0x9C8,0),(0x9CB,0x9CC,0),(0x9D7,0x9D7,0),(0xA03,0xA03,0),(0xA3E,0xA40,0),
   (0xA83,0xA83,0),(0xABE,0xAC0,0),(0xAC9,0xAC9,0),(0xACB,0xACC,0),(0xB02,0xB03,0),(0xB3E,0xB3E,0),
   (0xB40,0xB40,0),(0xB47,0xB48,0),(0xB4B,0xB4C,0),(0xB57,0xB57,0),(0xBBE,0xBBF,0),(0xBC1,0xBC2,0),
   (0xBC6,0xBC8,0),(0xBCA,0xBCC,0),(0xBD7,0xBD7,0),(0xC01,0xC03,0),(0xC41,0xC44,0),(0xC82,0xC83,0),
   (0xCBE,0xCBE,0),(0xCC0,0xCC4,0),(0xCC7,0xCC8,0),(0xCCA,0xCCB,0),(0xCD5,0xCD6,0),(0xCF3,0xCF3,0),
   (0xD02,0xD03,0),(0xD3E,0xD40,0),(0xD46,0xD48,0),(0xD4A,0xD4C,0),(0xD57,0xD57,0),(0xD82,0xD83,0),
   (0xDCF,0xDD1,0),(0xDD8,0xDDF,0),(0xDF2,0xDF3,0),(0xF3E,0xF3F,0),(0xF7F,0xF7F,0),
   (0x102B,0x102C,0),(0x1031,0x1031,0),(0x1038,0x1038,0),(0x103B,0x103C,0),(0x1056,0x1057,0),
   (0x1062,0x1064,0),(0x1067,0x106D,0),(0x1083,0x1084,0),(0x1087,0x108C,0),(0x108F,0x108F,0),
   (0x109A,0x109C,0),(0x1715,0x1715,9),(0x1734,0x1734,9),(0x17B6,0x17B6,0),(0x17BE,0x17C5,0),
   (0x17C7,0x17C8,0),(0x1923,0x1926,0),(0x1929,0x192B,0),(0x1930,0x1931,0),(0x1933,0x1938,0),
   (0x1A19,0x1A1A,0),(0x1A55,0x1A55,0),(0x1A57,0x1A57,0),(0x1A61,0x1A61,0),(0x1A63,0x1A64,0),
   (0x1A6D,0x1A72,0),(0x1B04,0x1B04,0),(0x1B35,0x1B35,0),(0x1B3B,0x1B3B,0),(0x1B3D,0x1B41,0),
   (0x1B43,0x1B43,0),(0x1B44,0x1B44,9),(0x1B82,0x1B82,0),(0x1BA1,0x1BA1,0),(0x1BA6,0x1BA7,0),
   (0x1BAA,0x1BAA,9),(0x1BE7,0x1BE7,0),(0x1BEA,0x1BEC,0),(0x1BEE,0x1BEE,0),(0x1BF2,0x1BF3,9),
   (0x1C24,0x1C2B,0),(0x1C34,0x1C35,0),(0x1CE1,0x1CE1,0),(0x1CF7,0x1CF7,0),(0x302E,0x302F,224),
   (0xA823,0xA824,0),(0xA827,0xA827,0),(0xA880,0xA881,0),(0xA8B4,0xA8C3,0),(0xA952,0xA952,0),
   (0xA953,0xA953,9),(0xA983,0xA983,0),(0xA9B4,0xA9B5,0),(0xA9BA,0xA9BB,0),(0xA9BE,0xA9BF,0),
   (0xA9C0,0xA9C0,9),(0xAA2F,0xAA30,0),(0xAA33,0xAA34,0),(0xAA4D,0xAA4D,0),(0xAA7B,0xAA7B,0),
   (0xAA7D,0xAA7D,0),(0xAAEB,0xAAEB,0),(0xAAEE,0xAAEF,0),(0xAAF5,0xAAF5,0),(0xABE3,0xABE4,0),
   (0xABE6,0xABE7,0),(0xABE9,0xABEA,0),(0xABEC,0xABEC,0),(0x11000,0x11000,0),(0x11002,0x11002,0),
   (0x11082,0x11082,0),(0x110B0,0x110B2,0),(0x110B7,0x110B8,0),(0x1112C,0x1112C,0),
   (0x11145,0x11146,0),(0x11182,0x11182,0),(0x111B3,0x111B5,0),(0x111BF,0x111BF,0),
   (0x111C0,0x111C0,9),(0x111CE,0x111CE,0),(0x1122C,0x1122E,0),(0x11232,0x11233,0),
   (0x11235,0x11235,9),(0x112E0,0x112E2,0),(0x11302,0x11303,0),(0x1133E,0x1133F,0),
   (0x11341,0x11344,0),(0x11347,0x11348,0),(0x1134B,0x1134C,0),(0x1134D,0x1134D,9),
   (0x11357,0x11357,0),(0x11362,0x11363,0),(0x113B8,0x113BA,0),(0x113C2,0x113C2,0),
   (0x113C5,0x113C5,0),(0x113C7,0x113CA,0),(0x113CC,0x113CD,0),(0x113CF,0x113CF,9),
   (0x11435,0x11437,0),(0x11440,0x11441,0),(0x11445,0x11445,0),(0x114B0,0x114B2,0),
   (0x114B9,0x114B9,0),(0x114BB,0x114BE,0),(0x114C1,0x114C1,0),(0x115AF,0x115B1,0),
   (0x115B8,0x115BB,0),(0x115BE,0x115BE,0),(0x11630,0x11632,0),(0x1163B,0x1163C,0),
   (0x1163E,0x1163E,0),(0x116AC,0x116AC,0),(0x116AE,0x116AF,0),(0x116B6,0x116B6,9),
   (0x1171E,0x1171E,0),(0x11720,0x11721,0),(0x11726,0x11726,0),(0x1182C,0x1182E,0),
   (0x11838,0x11838,0),(0x11930,0x11935,0),(0x11937,0x11938,0),(0x1193D,0x1193D,9),
   (0x11940,0x11940,0),(0x11942,0x11942,0),(0x119D1,0x119D3,0),(0x119DC,0x119DF,0),
   (0x119E4,0x119E4,0),(0x11A39,0x11A39,0),(0x11A57,0x11A58,0),(0x11A97,0x11A97,0),
   (0x11B61,0x11B61,0),(0x11B65,0x11B65,0),(0x11B67,0x11B67,0),(0x11C2F,0x11C2F,0),
   (0x11C3E,0x11C3E,0),(0x11CA9,0x11CA9,0),(0x11CB1,0x11CB1,0),(0x11CB4,0x11CB4,0),
   (0x11D8A,0x11D8E,0),(0x11D93,0x11D94,0),(0x11D96,0x11D96,0),(0x11EF5,0x11EF6,0),
   (0x11F03,0x11F03,0),(0x11F34,0x11F35,0),(0x11F3E,0x11F3F,0),(0x11F41,0x11F41,9),
   (0x1612A,0x1612C,0),(0x16F51,0x16F87,0),(0x16FF0,0x16FF1,6),(0x1D165,0x1D166,216),
   (0x1D16D,0x1D16D,226),(0x1D16E,0x1D172,216)]

def markClass? (c : Char) : Option Nat :=
  (rangeOf? nonspacingMarks c.toNat).orElse fun _ => rangeOf? spacingMarks c.toNat

def isMark (c : Char) : Bool := (markClass? c).isSome

def isNonspacingMark (c : Char) : Bool := (rangeOf? nonspacingMarks c.toNat).isSome

def combiningClass (c : Char) : Nat := (markClass? c).getD 0

/-- A mark that takes the vowel of a consonant away. -/
def isVowelKiller (c : Char) : Bool := combiningClass c = 9

end CloudMetrics.Text
