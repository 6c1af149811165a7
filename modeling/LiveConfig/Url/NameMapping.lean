import LiveConfig.Text.Runs

/-!
# Characters of names

How each character of Unicode 17 is read in the name of a host: kept, refused, or replaced by other
characters, among them its lower-case form. The table is that of the compatibility processing of
domain names, in which the characters that later rules read differently are kept.
-/

namespace LiveConfig.Url

/-- How a character is read. -/
inductive NameRule
  | keep
  | refuse
  | replace (others : List Char)
deriving DecidableEq, Repr

namespace NameRule

/-- The rules: `V` keeps and `X` refuses a character, `I` drops it, `T` shifts a run so that it
begins at another code point, `A` replaces every second character by the next one, and `C` replaces
each character of the run by the same text. -/
def runs : List Text.Run := Text.Run.readAll
  ["41V 1aT61 25V 20X 1T20 7V 1C20,308 1V 1T61 2V 1I 1V 1C20,304 2V 2T32 1C20,301 1T3bc 2V",
   "1C20,327 1T31 1T6f 1V 1C31,2044,34 1C31,2044,32 1C33,2044,34 1V 17Te0 1V 7Tf8 21V 2fA 1V",
   "1C69,307 1V 2C69,6a 3A 2V 5A 1V 2C6c,b7 7A 1V 1C2bc,6e 2dA 1V 1Tff 5A 1V 1T73 1V 1T253 3A 1V",
   "1T254 1T188 1V 2T256 1T18c 2V 1T1dd 1T259 1T25b 1T192 1V 1T260 1T263 1V 1T269 1T268 1T199 3V",
   "1T26f 1T272 1V 1T275 5A 1V 1T280 1T1a8 1V 1T283 2V 1T1ad 1V 1T288 1T1b0 1V 2T28a 3A 1V 1T292",
   "1T1b9 3V 1T1bd 7V 3C64,17e 3C6c,6a 3C6e,6a fA 2V 11A 2V 3C64,7a 1T1f5 1V 1T195 1T1bf 27A 1V",
   "1T19e 1V 11A 7V 1T2c65 1T23c 1V 1T19a 1T2c66 2V 1T242 1V 1T180 1T289 1T28c 9A 61V 1T68 1T266",
   "1T6a 1T72 1T279 1T27b 1T281 1T77 1T79 1fV 1C20,306 1C20,307 1C20,30a 1C20,328 1C20,303",
   "1C20,30b 2V 1T263 1T6c 1T73 1T78 1T295 5bV 2T300 1V 1T313 1C308,301 1T3b9 9V 1I 20V 3A 1V",
   "1T2b9 1V 1T377 1V 2X 1C20,3b9 3V 1T3b 1T3f3 4X 1C20,301 1C20,308,301 1T3ac 1Tb7 3T3ad 1X 1T3cc",
   "1X 2T3cd 1V 11T3b1 1X 9T3c3 23V 1T3d7 1T3b2 1T3b8 1T3c5 1T3cd 1T3cb 1T3c6 1T3c0 1V 17A 1V",
   "1T3ba 1T3c1 1T3c3 1V 1T3b8 1T3b5 1V 1T3f8 1V 1T3c3 1T3fb 2V 3T37b 10T450 20T430 30V 21A 9V 35A",
   "1V 1T4cf dA 2V 5fA 1V 1X 26T561 2X 2eV 1C565,582 3V 2X 3V 1X 37V 8X 1bV 4X 6V 11X 16V 1X 58V",
   "1C627,674 1C648,674 1C6c7,674 1C64a,674 64V 1X 30V 2X 3bV 2X 65V eX 3bV 2X 31V 2X fV 1X 1cV 2X",
   "1V 1X bV 5X 20V 7X 4bV 1X 75V 1C915,93c 1C916,93c 1C917,93c 1C91c,93c 1C921,93c 1C922,93c",
   "1C92b,93c 1C92f,93c 24V 1X 8V 2X 2V 2X 16V 1X 7V 1X 1V 3X 4V 2X 9V 2X 2V 2X 4V 8X 1V 4X",
   "1C9a1,9bc 1C9a2,9bc 1X 1C9af,9bc 4V 2X 19V 2X 3V 1X 6V 4X 2V 2X 16V 1X 7V 1X 1V 1Ca32,a3c 1X",
   "1V 1Ca38,a3c 1X 2V 2X 1V 1X 5V 4X 2V 2X 3V 3X 1V 7X 1Ca16,a3c 1Ca17,a3c 1Ca1c,a3c 1V 1X",
   "1Ca2b,a3c 7X 11V aX 3V 1X 9V 1X 3V 1X 16V 1X 7V 1X 2V 1X 5V 2X aV 1X 3V 1X 3V 2X 1V fX 4V 2X",
   "cV 7X 7V 1X 3V 1X 8V 2X 2V 2X 16V 1X 7V 1X 2V 1X 5V 2X 9V 2X 2V 2X 3V 7X 3V 4X 1Cb21,b3c",
   "1Cb22,b3c 1X 5V 2X 12V aX 2V 1X 6V 3X 3V 1X 4V 3X 2V 1X 1V 1X 2V 3X 2V 3X 3V 3X cV 4X 5V 3X 3V",
   "1X 4V 2X 1V 6X 1V eX 15V 5X dV 1X 3V 1X 17V 1X 10V 2X 9V 1X 3V 1X 4V 7X 2V 1X 3V 1X 2V 2X 4V",
   "2X aV 7X 16V 1X 3V 1X 17V 1X aV 1X 5V 2X 9V 1X 3V 1X 4V 7X 2V 5X 3V 1X 4V 2X aV 1X 3V cX dV 1X",
   "3V 1X 33V 1X 3V 1X 6V 4X 10V 2X 1aV 1X 3V 1X 12V 3X 18V 1X 9V 1X 1V 2X 7V 3X 1V 4X 6V 1X 1V 1X",
   "8V 6X aV 2X 3V cX 32V 1Ce4d,e32 7V 4X 1dV 25X 2V 1X 1V 1X 5V 1X 18V 1X 1V 1X cV 1Cecd,eb2 aV",
   "2X 5V 1X 1V 1X 7V 1X aV 2X 1Ceab,e99 1Ceab,ea1 2V 20X cV 1Tf0b 36V 1Cf42,fb7 4V 1X 4V",
   "1Cf4c,fb7 4V 1Cf51,fb7 4V 1Cf56,fb7 4V 1Cf5b,fb7 cV 1Cf40,fb5 3V 4X 2V 1Cf71,f72 1V 1Cf71,f74",
   "1Cfb2,f80 1Cfb2,f71,f80 1Cfb3,f80 1Cfb3,f71,f80 7V 1Cf71,f80 11V 1Cf92,fb7 4V 1X 4V 1Cf9c,fb7",
   "4V 1Cfa1,fb7 4V 1Cfa6,fb7 4V 1Cfab,fb7 cV 1Cf90,fb5 3V 1X fV 1X dV 25X a0V 26T2d00 1X 1T2d27",
   "5X 1T2d2d 2X 2cV 1T10dc 62V 2I e8V 1X 4V 2X 7V 1X 1V 1X 4V 2X 29V 1X 4V 2X 21V 1X 4V 2X 7V 1X",
   "1V 1X 4V 2X fV 1X 39V 1X 4V 2X 43V 2X 20V 3X 1aV 6X 56V 2X 6T13f0 2X 280V 1X 1cV 3X 59V 7X 16V",
   "9X 18V 9X 14V cX dV 1X 3V 1X 2V cX 34V 2I 28V 2X aV 6X aV 6X bV 5I aV 6X 59V 7X 2bV 5X 46V aX",
   "1fV 1X cV 4X cV 4X 1V 3X 2aV 2X 5V bX 2cV 4X 1aV 6X bV 3X 3eV 2X 41V 1X 1dV 2X bV 6X aV 6X eV",
   "2X 2eV 2X cV 14X 4dV 1X a6V 8X 3cV 3X fV 3X 33V 1T432 1T434 1T43e 2T441 1T442 1T44a 1T463",
   "1Ta64b 1T1c8a 1V 5X 2bT10d0 2X 3T10fd 8V 8X 2bV 5X 2cV 1T61 1Te6 1T62 1V 2T64 1T1dd 8T67 1V",
   "1T6f 1T223 1T70 1T72 2T74 1T77 1T61 2T250 1T1d02 1T62 2T64 1T259 2T25b 1T67 1V 1T6b 1T6d 1T14b",
   "1T6f 1T254 2T1d16 1T70 2T74 1T1d1d 1T26f 1T76 1T1d25 3T3b2 2T3c6 1T69 1T72 2T75 2T3b2 1T3c1",
   "2T3c6 dV 1T43d 22V 1T252 1T63 1T255 1Tf0 1T25c 1T66 1T25f 1T261 1T265 3T268 1T1d7b 1T29d 1T26d",
   "1T1d85 1T29f 1T271 1T270 4T272 1T278 2T282 1T1ab 2T289 1T1d1c 2T28b 1T7a 3T290 1T3b8 40V 95A",
   "5V 1C61,2be 1T1e61 2V 1Tdf 1V 5fA 9V 8T1f00 6V 2X 6T1f10 2X 8V 8T1f20 8V 8T1f30 6V 2X 6T1f40",
   "2X 8V 1X 1T1f51 1X 1T1f53 1X 1T1f55 1X 1T1f57 8V 8T1f60 1V 1T3ac 1V 1T3ad 1V 1T3ae 1V 1T3af 1V",
   "1T3cc 1V 1T3cd 1V 1T3ce 2X 1C1f00,3b9 1C1f01,3b9 1C1f02,3b9 1C1f03,3b9 1C1f04,3b9 1C1f05,3b9",
   "1C1f06,3b9 1C1f07,3b9 1C1f00,3b9 1C1f01,3b9 1C1f02,3b9 1C1f03,3b9 1C1f04,3b9 1C1f05,3b9",
   "1C1f06,3b9 1C1f07,3b9 1C1f20,3b9 1C1f21,3b9 1C1f22,3b9 1C1f23,3b9 1C1f24,3b9 1C1f25,3b9",
   "1C1f26,3b9 1C1f27,3b9 1C1f20,3b9 1C1f21,3b9 1C1f22,3b9 1C1f23,3b9 1C1f24,3b9 1C1f25,3b9",
   "1C1f26,3b9 1C1f27,3b9 1C1f60,3b9 1C1f61,3b9 1C1f62,3b9 1C1f63,3b9 1C1f64,3b9 1C1f65,3b9",
   "1C1f66,3b9 1C1f67,3b9 1C1f60,3b9 1C1f61,3b9 1C1f62,3b9 1C1f63,3b9 1C1f64,3b9 1C1f65,3b9",
   "1C1f66,3b9 1C1f67,3b9 2V 1C1f70,3b9 1C3b1,3b9 1C3ac,3b9 1X 1V 1C1fb6,3b9 2T1fb0 1T1f70 1T3ac",
   "1C3b1,3b9 1C20,313 1T3b9 1C20,313 1C20,342 1C20,308,342 1C1f74,3b9 1C3b7,3b9 1C3ae,3b9 1X 1V",
   "1C1fc6,3b9 1T1f72 1T3ad 1T1f74 1T3ae 1C3b7,3b9 1C20,313,300 1C20,313,301 1C20,313,342 3V 1T390",
   "2X 2V 2T1fd0 1T1f76 1T3af 1X 1C20,314,300 1C20,314,301 1C20,314,342 3V 1T3b0 4V 2T1fe0 1T1f7a",
   "1T3cd 1T1fe5 1C20,308,300 1C20,308,301 1T60 2X 1C1f7c,3b9 1C3c9,3b9 1C3ce,3b9 1X 1V 1C1ff6,3b9",
   "1T1f78 1T3cc 1T1f7c 1T3ce 1C3c9,3b9 1C20,301 1C20,314 1X bC20 1I 2V 2X 1V 1T2010 5V 1C20,333",
   "cV 3X 1V 7X 1T20 3V 1C2032,2032 1C2032,2032,2032 1V 1C2035,2035 1C2035,2035,2035 4V 1C21,21 1V",
   "1C20,305 8V 1C3f,3f 1C3f,21 1C21,3f dV 1C2032,2032,2032,2032 7V 1T20 5I 5X 6I 1T30 1T69 2X",
   "6T34 1T2b 1T2212 1T3d 2T28 1T6e aT30 1T2b 1T2212 1T3d 2T28 1X 1T61 1T65 1T6f 1T78 1T259 1T68",
   "4T6b 1T70 2T73 3X 8V 1C72,73 19V eX 21V fX 1C61,2f,63 1C61,2f,73 1T63 1Cb0,63 1V 1C63,2f,6f",
   "1C63,2f,75 1T25b 1V 1Cb0,66 2T67 3C68 1T127 2C69 2C6c 1V 1T6e 1C6e,6f 2V 3T70 2C72 2V 1C73,6d",
   "1C74,65,6c 1C74,6d 1V 1T7a 1V 1T3c9 1V 1T7a 1V 1T6b 1Te5 2T62 1V 2C65 1T66 1T214e 1T6d 1T6f",
   "4T5d0 1T69 1V 1C66,61,78 1T3c0 2C3b3 1T3c0 1T2211 4V 2C64 1T65 2T69 6V 1C31,2044,37",
   "1C31,2044,39 1C31,2044,31,30 1C31,2044,33 1C32,2044,33 1C31,2044,35 1C32,2044,35 1C33,2044,35",
   "1C34,2044,35 1C31,2044,36 1C35,2044,36 1C31,2044,38 1C33,2044,38 1C35,2044,38 1C37,2044,38",
   "1C31,2044 1T69 1C69,69 1C69,69,69 1C69,76 1T76 1C76,69 1C76,69,69 1C76,69,69,69 1C69,78 1T78",
   "1C78,69 1C78,69,69 1T6c 2T63 1T6d 1T69 1C69,69 1C69,69,69 1C69,76 1T76 1C76,69 1C76,69,69",
   "1C76,69,69,69 1C69,78 1T78 1C78,69 1C78,69,69 1T6c 2T63 1T6d 3V 1T2184 5V 1C30,2044,33 2V 4X",
   "9cV 1C222b,222b 1C222b,222b,222b 1V 1C222e,222e 1C222e,222e,222e f8V 2T3008 ffV 16X bV 15X",
   "9T31 1C31,30 1C31,31 1C31,32 1C31,33 1C31,34 1C31,35 1C31,36 1C31,37 1C31,38 1C31,39 1C32,30",
   "1C28,31,29 1C28,32,29 1C28,33,29 1C28,34,29 1C28,35,29 1C28,36,29 1C28,37,29 1C28,38,29",
   "1C28,39,29 1C28,31,30,29 1C28,31,31,29 1C28,31,32,29 1C28,31,33,29 1C28,31,34,29 1C28,31,35,29",
   "1C28,31,36,29 1C28,31,37,29 1C28,31,38,29 1C28,31,39,29 1C28,32,30,29 14X 1C28,61,29",
   "1C28,62,29 1C28,63,29 1C28,64,29 1C28,65,29 1C28,66,29 1C28,67,29 1C28,68,29 1C28,69,29",
   "1C28,6a,29 1C28,6b,29 1C28,6c,29 1C28,6d,29 1C28,6e,29 1C28,6f,29 1C28,70,29 1C28,71,29",
   "1C28,72,29 1C28,73,29 1C28,74,29 1C28,75,29 1C28,76,29 1C28,77,29 1C28,78,29 1C28,79,29",
   "1C28,7a,29 1aT61 1aT61 1T30 521V 1C222b,222b,222b,222b 67V 1C3a,3a,3d 1C3d,3d 1C3d,3d,3d 65V",
   "1C2add,338 97V 2X 8aV 30T2c30 30V 1T2c61 1V 1T26b 1T1d7d 1T27d 2V 5A 1V 1T251 1T271 1T250",
   "1T252 1V 1T2c73 2V 1T2c76 6V 1T6a 1T76 2T23f 63A 8V 3A 4V 1T2cf3 1V 5X 2dV 1X 1V 5X 1V 2X 38V",
   "7X 1T2d61 1V eX 18V 9X 7V 1X 7V 1X 7V 1X 7V 1X 7V 1X 7V 1X 7V 1X 7V 1X 7eV 22X 1aV 1X 4V",
   "1T6bcd 53V 1T9f9f cX 1T4e00 1T4e28 1T4e36 1T4e3f 1T4e59 1T4e85 1T4e8c 1T4ea0 1T4eba 1T513f",
   "1T5165 1T516b 1T5182 1T5196 1T51ab 1T51e0 1T51f5 1T5200 1T529b 1T52f9 1T5315 1T531a 1T5338",
   "1T5341 1T535c 1T5369 1T5382 1T53b6 1T53c8 1T53e3 1T56d7 1T571f 1T58eb 1T5902 1T590a 1T5915",
   "1T5927 1T5973 1T5b50 1T5b80 1T5bf8 1T5c0f 1T5c22 1T5c38 1T5c6e 1T5c71 1T5ddb 1T5de5 1T5df1",
   "1T5dfe 1T5e72 1T5e7a 1T5e7f 1T5ef4 1T5efe 1T5f0b 1T5f13 1T5f50 1T5f61 1T5f73 1T5fc3 1T6208",
   "1T6236 1T624b 1T652f 1T6534 1T6587 1T6597 1T65a4 1T65b9 1T65e0 1T65e5 1T66f0 1T6708 1T6728",
   "1T6b20 1T6b62 1T6b79 1T6bb3 1T6bcb 1T6bd4 1T6bdb 1T6c0f 1T6c14 1T6c34 1T706b 1T722a 1T7236",
   "1T723b 1T723f 1T7247 1T7259 1T725b 1T72ac 1T7384 1T7389 1T74dc 1T74e6 1T7518 1T751f 1T7528",
   "1T7530 1T758b 1T7592 1T7676 1T767d 1T76ae 1T76bf 1T76ee 1T77db 1T77e2 1T77f3 1T793a 1T79b8",
   "1T79be 1T7a74 1T7acb 1T7af9 1T7c73 1T7cf8 1T7f36 1T7f51 1T7f8a 1T7fbd 1T8001 1T800c 1T8012",
   "1T8033 1T807f 1T8089 1T81e3 1T81ea 1T81f3 1T81fc 1T820c 1T821b 1T821f 1T826e 1T8272 1T8278",
   "1T864d 1T866b 1T8840 1T884c 1T8863 1T897e 1T898b 1T89d2 1T8a00 1T8c37 1T8c46 1T8c55 1T8c78",
   "1T8c9d 1T8d64 1T8d70 1T8db3 1T8eab 1T8eca 1T8f9b 1T8fb0 1T8fb5 1T9091 1T9149 1T91c6 1T91cc",
   "1T91d1 1T9577 1T9580 1T961c 1T96b6 1T96b9 1T96e8 1T9751 1T975e 1T9762 1T9769 1T97cb 1T97ed",
   "1T97f3 1T9801 1T98a8 1T98db 1T98df 1T9996 1T9999 1T99ac 1T9aa8 1T9ad8 1T9adf 1T9b25 1T9b2f",
   "1T9b32 1T9b3c 1T9b5a 1T9ce5 1T9e75 1T9e7f 1T9ea5 1T9ebb 1T9ec3 1T9ecd 1T9ed1 1T9ef9 1T9efd",
   "1T9f0e 1T9f13 1T9f20 1T9f3b 1T9f4a 1T9f52 1T9f8d 1T9f9c 1T9fa0 2aX 1T20 1V 1T2e 33V 1T3012 1V",
   "1T5341 2T5344 5V 1X 56V 2X 2V 1C20,3099 1C20,309a 2V 1C3088,308a 5fV 1C30b3,30c8 5X 2bV 1X",
   "2T1100 1T11aa 1T1102 2T11ac 3T1103 6T11b0 1T111a 3T1106 1T1121 aT1109 15T1161 1I 2T1114 2T11c7",
   "1T11cc 1T11ce 1T11d3 1T11d7 1T11d9 1T111c 1T11dd 1T11df 2T111d 1T1120 2T1122 1T1127 1T1129",
   "5T112b 1T1132 1T1136 1T1140 1T1147 1T114c 2T11f1 3T1157 2T1184 1T1188 2T1191 1T1194 1T119e",
   "1T11a1 1X 2V 1T4e00 1T4e8c 1T4e09 1T56db 1T4e0a 1T4e2d 1T4e0b 1T7532 1T4e59 1T4e19 1T4e01",
   "1T5929 1T5730 1T4eba 46V aX 10V 1C28,1100,29 1C28,1102,29 1C28,1103,29 1C28,1105,29",
   "1C28,1106,29 1C28,1107,29 1C28,1109,29 1C28,110b,29 1C28,110c,29 1C28,110e,29 1C28,110f,29",
   "1C28,1110,29 1C28,1111,29 1C28,1112,29 1C28,ac00,29 1C28,b098,29 1C28,b2e4,29 1C28,b77c,29",
   "1C28,b9c8,29 1C28,bc14,29 1C28,c0ac,29 1C28,c544,29 1C28,c790,29 1C28,cc28,29 1C28,ce74,29",
   "1C28,d0c0,29 1C28,d30c,29 1C28,d558,29 1C28,c8fc,29 1C28,c624,c804,29 1C28,c624,d6c4,29 1X",
   "1C28,4e00,29 1C28,4e8c,29 1C28,4e09,29 1C28,56db,29 1C28,4e94,29 1C28,516d,29 1C28,4e03,29",
   "1C28,516b,29 1C28,4e5d,29 1C28,5341,29 1C28,6708,29 1C28,706b,29 1C28,6c34,29 1C28,6728,29",
   "1C28,91d1,29 1C28,571f,29 1C28,65e5,29 1C28,682a,29 1C28,6709,29 1C28,793e,29 1C28,540d,29",
   "1C28,7279,29 1C28,8ca1,29 1C28,795d,29 1C28,52b4,29 1C28,4ee3,29 1C28,547c,29 1C28,5b66,29",
   "1C28,76e3,29 1C28,4f01,29 1C28,8cc7,29 1C28,5354,29 1C28,796d,29 1C28,4f11,29 1C28,81ea,29",
   "1C28,81f3,29 1T554f 1T5e7c 1T6587 1T7b8f 8V 1C70,74,65 1C32,31 1C32,32 1C32,33 1C32,34 1C32,35",
   "1C32,36 1C32,37 1C32,38 1C32,39 1C33,30 1C33,31 1C33,32 1C33,33 1C33,34 1C33,35 1T1100 2T1102",
   "3T1105 1T1109 2T110b 5T110e 1Tac00 1Tb098 1Tb2e4 1Tb77c 1Tb9c8 1Tbc14 1Tc0ac 1Tc544 1Tc790",
   "1Tcc28 1Tce74 1Td0c0 1Td30c 1Td558 1Ccc38,ace0 1Cc8fc,c758 1Tc6b0 1V 1T4e00 1T4e8c 1T4e09",
   "1T56db 1T4e94 1T516d 1T4e03 1T516b 1T4e5d 1T5341 1T6708 1T706b 1T6c34 1T6728 1T91d1 1T571f",
   "1T65e5 1T682a 1T6709 1T793e 1T540d 1T7279 1T8ca1 1T795d 1T52b4 1T79d8 1T7537 1T5973 1T9069",
   "1T512a 1T5370 1T6ce8 1T9805 1T4f11 1T5199 1T6b63 1T4e0a 1T4e2d 1T4e0b 1T5de6 1T53f3 1T533b",
   "1T5b97 1T5b66 1T76e3 1T4f01 1T8cc7 1T5354 1T591c 1C33,36 1C33,37 1C33,38 1C33,39 1C34,30",
   "1C34,31 1C34,32 1C34,33 1C34,34 1C34,35 1C34,36 1C34,37 1C34,38 1C34,39 1C35,30 1C31,6708",
   "1C32,6708 1C33,6708 1C34,6708 1C35,6708 1C36,6708 1C37,6708 1C38,6708 1C39,6708 1C31,30,6708",
   "1C31,31,6708 1C31,32,6708 1C68,67 1C65,72,67 1C65,76 1C6c,74,64 1T30a2 1T30a4 1T30a6 1T30a8",
   "2T30aa 1T30ad 1T30af 1T30b1 1T30b3 1T30b5 1T30b7 1T30b9 1T30bb 1T30bd 1T30bf 1T30c1 1T30c4",
   "1T30c6 1T30c8 6T30ca 1T30d2 1T30d5 1T30d8 1T30db 5T30de 1T30e4 1T30e6 6T30e8 4T30ef",
   "1C4ee4,548c 1C30a2,30d1,30fc,30c8 1C30a2,30eb,30d5,30a1 1C30a2,30f3,30da,30a2 1C30a2,30fc,30eb",
   "1C30a4,30cb,30f3,30b0 1C30a4,30f3,30c1 1C30a6,30a9,30f3 1C30a8,30b9,30af,30fc,30c9",
   "1C30a8,30fc,30ab,30fc 1C30aa,30f3,30b9 1C30aa,30fc,30e0 1C30ab,30a4,30ea 1C30ab,30e9,30c3,30c8",
   "1C30ab,30ed,30ea,30fc 1C30ac,30ed,30f3 1C30ac,30f3,30de 1C30ae,30ac 1C30ae,30cb,30fc",
   "1C30ad,30e5,30ea,30fc 1C30ae,30eb,30c0,30fc 1C30ad,30ed 1C30ad,30ed,30b0,30e9,30e0",
   "1C30ad,30ed,30e1,30fc,30c8,30eb 1C30ad,30ed,30ef,30c3,30c8 1C30b0,30e9,30e0",
   "1C30b0,30e9,30e0,30c8,30f3 1C30af,30eb,30bc,30a4,30ed 1C30af,30ed,30fc,30cd 1C30b1,30fc,30b9",
   "1C30b3,30eb,30ca 1C30b3,30fc,30dd 1C30b5,30a4,30af,30eb 1C30b5,30f3,30c1,30fc,30e0",
   "1C30b7,30ea,30f3,30b0 1C30bb,30f3,30c1 1C30bb,30f3,30c8 1C30c0,30fc,30b9 1C30c7,30b7",
   "1C30c9,30eb 1C30c8,30f3 1C30ca,30ce 1C30ce,30c3,30c8 1C30cf,30a4,30c4",
   "1C30d1,30fc,30bb,30f3,30c8 1C30d1,30fc,30c4 1C30d0,30fc,30ec,30eb 1C30d4,30a2,30b9,30c8,30eb",
   "1C30d4,30af,30eb 1C30d4,30b3 1C30d3,30eb 1C30d5,30a1,30e9,30c3,30c9 1C30d5,30a3,30fc,30c8",
   "1C30d6,30c3,30b7,30a7,30eb 1C30d5,30e9,30f3 1C30d8,30af,30bf,30fc,30eb 1C30da,30bd",
   "1C30da,30cb,30d2 1C30d8,30eb,30c4 1C30da,30f3,30b9 1C30da,30fc,30b8 1C30d9,30fc,30bf",
   "1C30dd,30a4,30f3,30c8 1C30dc,30eb,30c8 1C30db,30f3 1C30dd,30f3,30c9 1C30db,30fc,30eb",
   "1C30db,30fc,30f3 1C30de,30a4,30af,30ed 1C30de,30a4,30eb 1C30de,30c3,30cf 1C30de,30eb,30af",
   "1C30de,30f3,30b7,30e7,30f3 1C30df,30af,30ed,30f3 1C30df,30ea 1C30df,30ea,30d0,30fc,30eb",
   "1C30e1,30ac 1C30e1,30ac,30c8,30f3 1C30e1,30fc,30c8,30eb 1C30e4,30fc,30c9 1C30e4,30fc,30eb",
   "1C30e6,30a2,30f3 1C30ea,30c3,30c8,30eb 1C30ea,30e9 1C30eb,30d4,30fc 1C30eb,30fc,30d6,30eb",
   "1C30ec,30e0 1C30ec,30f3,30c8,30b2,30f3 1C30ef,30c3,30c8 1C30,70b9 1C31,70b9 1C32,70b9",
   "1C33,70b9 1C34,70b9 1C35,70b9 1C36,70b9 1C37,70b9 1C38,70b9 1C39,70b9 1C31,30,70b9",
   "1C31,31,70b9 1C31,32,70b9 1C31,33,70b9 1C31,34,70b9 1C31,35,70b9 1C31,36,70b9 1C31,37,70b9",
   "1C31,38,70b9 1C31,39,70b9 1C32,30,70b9 1C32,31,70b9 1C32,32,70b9 1C32,33,70b9 1C32,34,70b9",
   "1C68,70,61 1C64,61 1C61,75 1C62,61,72 1C6f,76 1C70,63 1C64,6d 1C64,6d,32 1C64,6d,33 1C69,75",
   "1C5e73,6210 1C662d,548c 1C5927,6b63 1C660e,6cbb 1C682a,5f0f,4f1a,793e 1C70,61 1C6e,61 1C3bc,61",
   "1C6d,61 1C6b,61 1C6b,62 1C6d,62 1C67,62 1C63,61,6c 1C6b,63,61,6c 1C70,66 1C6e,66 1C3bc,66",
   "1C3bc,67 1C6d,67 1C6b,67 1C68,7a 1C6b,68,7a 1C6d,68,7a 1C67,68,7a 1C74,68,7a 1C3bc,6c 1C6d,6c",
   "1C64,6c 1C6b,6c 1C66,6d 1C6e,6d 1C3bc,6d 1C6d,6d 1C63,6d 1C6b,6d 1C6d,6d,32 1C63,6d,32 1C6d,32",
   "1C6b,6d,32 1C6d,6d,33 1C63,6d,33 1C6d,33 1C6b,6d,33 1C6d,2215,73 1C6d,2215,73,32 1C70,61",
   "1C6b,70,61 1C6d,70,61 1C67,70,61 1C72,61,64 1C72,61,64,2215,73 1C72,61,64,2215,73,32 1C70,73",
   "1C6e,73 1C3bc,73 1C6d,73 1C70,76 1C6e,76 1C3bc,76 1C6d,76 1C6b,76 1C6d,76 1C70,77 1C6e,77",
   "1C3bc,77 1C6d,77 1C6b,77 1C6d,77 1C6b,3c9 1C6d,3c9 1X 1C62,71 1C63,63 1C63,64 1C63,2215,6b,67",
   "1X 1C64,62 1C67,79 1C68,61 1C68,70 1C69,6e 1C6b,6b 1C6b,6d 1C6b,74 1C6c,6d 1C6c,6e 1C6c,6f,67",
   "1C6c,78 1C6d,62 1C6d,69,6c 1C6d,6f,6c 1C70,68 1X 1C70,70,6d 1C70,72 1C73,72 1C73,76 1C77,62",
   "1C76,2215,6d 1C61,2215,6d 1C31,65e5 1C32,65e5 1C33,65e5 1C34,65e5 1C35,65e5 1C36,65e5",
   "1C37,65e5 1C38,65e5 1C39,65e5 1C31,30,65e5 1C31,31,65e5 1C31,32,65e5 1C31,33,65e5 1C31,34,65e5",
   "1C31,35,65e5 1C31,36,65e5 1C31,37,65e5 1C31,38,65e5 1C31,39,65e5 1C32,30,65e5 1C32,31,65e5",
   "1C32,32,65e5 1C32,33,65e5 1C32,34,65e5 1C32,35,65e5 1C32,36,65e5 1C32,37,65e5 1C32,38,65e5",
   "1C32,39,65e5 1C33,30,65e5 1C33,31,65e5 1C67,61,6c 708dV 3X 37V 9X 15cV 14X 2dA 13V 1bA 1V",
   "1T44a 1T44c 5aV 8X 22V dA 3V 3dA 1V 1Ta76f 8V 3A 1V 1T1d79 9A 4V 1Ta78c 1V 1T265 2V 3A 3V 13A",
   "1V 1T266 1T25c 1T261 1T26c 1T26a 1V 1T29e 1T287 1T29d 1Tab53 fA 1V 1Ta794 1T282 1T1d8e 3A 1V",
   "1T264 fA 1V 1T19b 14X 1T73 1T63 1T66 1T71 1Ta7f6 2V 1T127 1T153 33V 3X aV 6X 38V 8X 46V 8X cV",
   "6X 74V bX 1eV 3X 4eV 1X bV 4X 21V 1X 37V 9X eV 2X aV 2X 67V 18X 1cV aX 6V 2X 6V 2X 6V 9X 7V 1X",
   "7V 1X 2cV 1Ta727 1Tab37 1T26b 1Tab52 9V 1T28d 2V 4X 50T13a0 2eV 2X aV 6X 2ba4V cX 17V 4X 31V",
   "2104X 1T8c48 1T66f4 1T8eca 1T8cc8 1T6ed1 1T4e32 1T53e5 2C9f9c 1T5951 1T91d1 1T5587 1T5948",
   "1T61f6 1T7669 1T7f85 1T863f 1T87ba 1T88f8 1T908f 1T6a02 1T6d1b 1T70d9 1T73de 1T843d 1T916a",
   "1T99f1 1T4e82 1T5375 1T6b04 1T721b 1T862d 1T9e1e 1T5d50 1T6feb 1T85cd 1T8964 1T62c9 1T81d8",
   "1T881f 1T5eca 1T6717 1T6d6a 1T72fc 1T90ce 1T4f86 1T51b7 1T52de 1T64c4 1T6ad3 1T7210 1T76e7",
   "1T8001 1T8606 1T865c 1T8def 1T9732 1T9b6f 1T9dfa 1T788c 1T797f 1T7da0 1T83c9 1T9304 1T9e7f",
   "1T8ad6 1T58df 1T5f04 1T7c60 1T807e 1T7262 1T78ca 1T8cc2 1T96f7 1T58d8 1T5c62 1T6a13 1T6dda",
   "1T6f0f 1T7d2f 1T7e37 1T964b 1T52d2 1T808b 1T51dc 1T51cc 1T7a1c 1T7dbe 1T83f1 1T9675 1T8b80",
   "1T62cf 1T6a02 1T8afe 1T4e39 1T5be7 1T6012 1T7387 1T7570 1T5317 1T78fb 1T4fbf 1T5fa9 1T4e0d",
   "1T6ccc 1T6578 1T7d22 1T53c3 1T585e 1T7701 1T8449 1T8aaa 1T6bba 1T8fb0 1T6c88 1T62fe 1T82e5",
   "1T63a0 1T7565 1T4eae 1T5169 1T51c9 1T6881 1T7ce7 1T826f 1T8ad2 1T91cf 1T52f5 1T5442 1T5973",
   "1T5eec 1T65c5 1T6ffe 1T792a 1T95ad 1T9a6a 1T9e97 1T9ece 1T529b 1T66c6 1T6b77 1T8f62 1T5e74",
   "1T6190 1T6200 1T649a 1T6f23 1T7149 1T7489 1T79ca 1T7df4 1T806f 1T8f26 1T84ee 1T9023 1T934a",
   "1T5217 1T52a3 1T54bd 1T70c8 1T88c2 1T8aaa 1T5ec9 1T5ff5 1T637b 1T6bae 1T7c3e 1T7375 1T4ee4",
   "1T56f9 1T5be7 1T5dba 1T601c 1T73b2 1T7469 1T7f9a 1T8046 1T9234 1T96f6 1T9748 1T9818 1T4f8b",
   "1T79ae 1T91b4 1T96b8 1T60e1 1T4e86 1T50da 1T5bee 1T5c3f 1T6599 1T6a02 1T71ce 1T7642 1T84fc",
   "1T907c 1T9f8d 1T6688 1T962e 1T5289 1T677b 1T67f3 1T6d41 1T6e9c 1T7409 1T7559 1T786b 1T7d10",
   "1T985e 1T516d 1T622e 1T9678 1T502b 1T5d19 1T6dea 1T8f2a 1T5f8b 1T6144 1T6817 1T7387 1T9686",
   "1T5229 1T540f 1T5c65 1T6613 1T674e 1T68a8 1T6ce5 1T7406 1T75e2 1T7f79 1T88cf 1T88e1 1T91cc",
   "1T96e2 1T533f 1T6eba 1T541d 1T71d0 1T7498 1T85fa 1T96a3 1T9c57 1T9e9f 1T6797 1T6dcb 1T81e8",
   "1T7acb 1T7b20 1T7c92 1T72c0 1T7099 1T8b58 1T4ec0 1T8336 1T523a 1T5207 1T5ea6 1T62d3 1T7cd6",
   "1T5b85 1T6d1e 1T66b4 1T8f3b 1T884c 1T964d 1T898b 1T5ed3 1T5140 1T55c0 2V 1T585a 1V 1T6674 2V",
   "1T51de 1T732a 1T76ca 1T793c 1T795e 1T7965 1T798f 1T9756 1T7cbe 1T7fbd 1V 1T8612 1V 1T8af8 2V",
   "1T9038 1T90fd 3V 1T98ef 1T98fc 1T9928 1T9db4 1T90de 1T96b7 1T4fae 1T50e7 1T514d 1T52c9 1T52e4",
   "1T5351 1T559d 1T5606 1T5668 1T5840 1T58a8 1T5c64 1T5c6e 1T6094 1T6168 1T618e 1T61f2 1T654f",
   "1T65e2 1T6691 1T6885 1T6d77 1T6e1a 1T6f22 1T716e 1T722b 1T7422 1T7891 1T793e 1T7949 1T7948",
   "1T7950 1T7956 1T795d 2T798d 1T7a40 1T7a81 1T7bc0 1T7df4 1T7e09 1T7e41 1T7f72 1T8005 1T81ed",
   "2C8279 1T8457 1T8910 1T8996 1T8b01 1T8b39 1T8cd3 1T8d08 1T8fb6 1T9038 1T96e3 1T97ff 1T983b",
   "1T6075 1T242ee 1T8218 2X 1T4e26 1T51b5 1T5168 1T4f80 1T5145 1T5180 1T52c7 1T52fa 1T559d 1T5555",
   "1T5599 1T55e2 1T585a 1T58b3 1T5944 1T5954 1T5a62 1T5b28 1T5ed2 1T5ed9 1T5f69 1T5fad 1T60d8",
   "1T614e 1T6108 1T618e 1T6160 1T61f2 1T6234 1T63c4 1T641c 1T6452 1T6556 1T6674 1T6717 1T671b",
   "1T6756 1T6b79 1T6bba 1T6d41 1T6edb 1T6ecb 1T6f22 1T701e 1T716e 1T77a7 1T7235 1T72af 1T732a",
   "1T7471 1T7506 1T753b 1T761d 1T761f 1T76ca 1T76db 1T76f4 1T774a 1T7740 1T78cc 1T7ab1 1T7bc0",
   "1T7c7b 1T7d5b 1T7df4 1T7f3e 1T8005 1T8352 1T83ef 1T8779 1T8941 1T8986 1T8996 1T8abf 1T8af8",
   "1T8acb 1T8b01 1T8afe 1T8aed 1T8b39 1T8b8a 1T8d08 1T8f38 1T9072 1T9199 1T9276 1T967c 1T96e3",
   "1T9756 1T97db 1T97ff 1T980b 1T983b 1T9b12 1T9f9c 1T2284a 1T22844 1T233d5 1T3b9d 1T4018 1T4039",
   "1T25249 1T25cd0 1T27ed3 1T9f43 1T9f8e 26X 1C66,66 1C66,69 1C66,6c 1C66,66,69 1C66,66,6c",
   "2C73,74 cX 1C574,576 1C574,565 1C574,56b 1C57e,576 1C574,56d 5X 1C5d9,5b4 1V 1C5f2,5b7 1T5e2",
   "1T5d0 2T5d3 3T5db 1T5e8 1T5ea 1T2b 1C5e9,5c1 1C5e9,5c2 1C5e9,5bc,5c1 1C5e9,5bc,5c2 1C5d0,5b7",
   "1C5d0,5b8 1C5d0,5bc 1C5d1,5bc 1C5d2,5bc 1C5d3,5bc 1C5d4,5bc 1C5d5,5bc 1C5d6,5bc 1X 1C5d8,5bc",
   "1C5d9,5bc 1C5da,5bc 1C5db,5bc 1C5dc,5bc 1X 1C5de,5bc 1X 1C5e0,5bc 1C5e1,5bc 1X 1C5e3,5bc",
   "1C5e4,5bc 1X 1C5e6,5bc 1C5e7,5bc 1C5e8,5bc 1C5e9,5bc 1C5ea,5bc 1C5d5,5b9 1C5d1,5bf 1C5db,5bf",
   "1C5e4,5bf 1C5d0,5dc 2C671 4C67b 4C67e 4C680 4C67a 4C67f 4C679 4C6a4 4C6a6 4C684 4C683 4C686",
   "4C687 2C68d 2C68c 2C68e 2C688 2C698 2C691 4C6a9 4C6af 4C6b3 4C6b1 2C6ba 4C6bb 2C6c0 4C6c1",
   "4C6be 2C6d2 2C6d3 21V 4C6ad 2C6c7 2C6c6 2C6c8 1C6c7,674 2C6cb 2C6c5 2C6c9 4C6d0 2C649",
   "2C626,627 2C626,6d5 2C626,648 2C626,6c7 2C626,6c6 2C626,6c8 3C626,6d0 3C626,649 4C6cc",
   "1C626,62c 1C626,62d 1C626,645 1C626,649 1C626,64a 1C628,62c 1C628,62d 1C628,62e 1C628,645",
   "1C628,649 1C628,64a 1C62a,62c 1C62a,62d 1C62a,62e 1C62a,645 1C62a,649 1C62a,64a 1C62b,62c",
   "1C62b,645 1C62b,649 1C62b,64a 1C62c,62d 1C62c,645 1C62d,62c 1C62d,645 1C62e,62c 1C62e,62d",
   "1C62e,645 1C633,62c 1C633,62d 1C633,62e 1C633,645 1C635,62d 1C635,645 1C636,62c 1C636,62d",
   "1C636,62e 1C636,645 1C637,62d 1C637,645 1C638,645 1C639,62c 1C639,645 1C63a,62c 1C63a,645",
   "1C641,62c 1C641,62d 1C641,62e 1C641,645 1C641,649 1C641,64a 1C642,62d 1C642,645 1C642,649",
   "1C642,64a 1C643,627 1C643,62c 1C643,62d 1C643,62e 1C643,644 1C643,645 1C643,649 1C643,64a",
   "1C644,62c 1C644,62d 1C644,62e 1C644,645 1C644,649 1C644,64a 1C645,62c 1C645,62d 1C645,62e",
   "1C645,645 1C645,649 1C645,64a 1C646,62c 1C646,62d 1C646,62e 1C646,645 1C646,649 1C646,64a",
   "1C647,62c 1C647,645 1C647,649 1C647,64a 1C64a,62c 1C64a,62d 1C64a,62e 1C64a,645 1C64a,649",
   "1C64a,64a 1C630,670 1C631,670 1C649,670 1C20,64c,651 1C20,64d,651 1C20,64e,651 1C20,64f,651",
   "1C20,650,651 1C20,651,670 1C626,631 1C626,632 1C626,645 1C626,646 1C626,649 1C626,64a",
   "1C628,631 1C628,632 1C628,645 1C628,646 1C628,649 1C628,64a 1C62a,631 1C62a,632 1C62a,645",
   "1C62a,646 1C62a,649 1C62a,64a 1C62b,631 1C62b,632 1C62b,645 1C62b,646 1C62b,649 1C62b,64a",
   "1C641,649 1C641,64a 1C642,649 1C642,64a 1C643,627 1C643,644 1C643,645 1C643,649 1C643,64a",
   "1C644,645 1C644,649 1C644,64a 1C645,627 1C645,645 1C646,631 1C646,632 1C646,645 1C646,646",
   "1C646,649 1C646,64a 1C649,670 1C64a,631 1C64a,632 1C64a,645 1C64a,646 1C64a,649 1C64a,64a",
   "1C626,62c 1C626,62d 1C626,62e 1C626,645 1C626,647 1C628,62c 1C628,62d 1C628,62e 1C628,645",
   "1C628,647 1C62a,62c 1C62a,62d 1C62a,62e 1C62a,645 1C62a,647 1C62b,645 1C62c,62d 1C62c,645",
   "1C62d,62c 1C62d,645 1C62e,62c 1C62e,645 1C633,62c 1C633,62d 1C633,62e 1C633,645 1C635,62d",
   "1C635,62e 1C635,645 1C636,62c 1C636,62d 1C636,62e 1C636,645 1C637,62d 1C638,645 1C639,62c",
   "1C639,645 1C63a,62c 1C63a,645 1C641,62c 1C641,62d 1C641,62e 1C641,645 1C642,62d 1C642,645",
   "1C643,62c 1C643,62d 1C643,62e 1C643,644 1C643,645 1C644,62c 1C644,62d 1C644,62e 1C644,645",
   "1C644,647 1C645,62c 1C645,62d 1C645,62e 1C645,645 1C646,62c 1C646,62d 1C646,62e 1C646,645",
   "1C646,647 1C647,62c 1C647,645 1C647,670 1C64a,62c 1C64a,62d 1C64a,62e 1C64a,645 1C64a,647",
   "1C626,645 1C626,647 1C628,645 1C628,647 1C62a,645 1C62a,647 1C62b,645 1C62b,647 1C633,645",
   "1C633,647 1C634,645 1C634,647 1C643,644 1C643,645 1C644,645 1C646,645 1C646,647 1C64a,645",
   "1C64a,647 1C640,64e,651 1C640,64f,651 1C640,650,651 1C637,649 1C637,64a 1C639,649 1C639,64a",
   "1C63a,649 1C63a,64a 1C633,649 1C633,64a 1C634,649 1C634,64a 1C62d,649 1C62d,64a 1C62c,649",
   "1C62c,64a 1C62e,649 1C62e,64a 1C635,649 1C635,64a 1C636,649 1C636,64a 1C634,62c 1C634,62d",
   "1C634,62e 1C634,645 1C634,631 1C633,631 1C635,631 1C636,631 1C637,649 1C637,64a 1C639,649",
   "1C639,64a 1C63a,649 1C63a,64a 1C633,649 1C633,64a 1C634,649 1C634,64a 1C62d,649 1C62d,64a",
   "1C62c,649 1C62c,64a 1C62e,649 1C62e,64a 1C635,649 1C635,64a 1C636,649 1C636,64a 1C634,62c",
   "1C634,62d 1C634,62e 1C634,645 1C634,631 1C633,631 1C635,631 1C636,631 1C634,62c 1C634,62d",
   "1C634,62e 1C634,645 1C633,647 1C634,647 1C637,645 1C633,62c 1C633,62d 1C633,62e 1C634,62c",
   "1C634,62d 1C634,62e 1C637,645 1C638,645 2C627,64b 12V 1C62a,62c,645 2C62a,62d,62c",
   "1C62a,62d,645 1C62a,62e,645 1C62a,645,62c 1C62a,645,62d 1C62a,645,62e 2C62c,645,62d",
   "1C62d,645,64a 1C62d,645,649 1C633,62d,62c 1C633,62c,62d 1C633,62c,649 2C633,645,62d",
   "1C633,645,62c 2C633,645,645 2C635,62d,62d 1C635,645,645 2C634,62d,645 1C634,62c,64a",
   "2C634,645,62e 2C634,645,645 1C636,62d,649 2C636,62e,645 2C637,645,62d 1C637,645,645",
   "1C637,645,64a 1C639,62c,645 2C639,645,645 1C639,645,649 1C63a,645,645 1C63a,645,64a",
   "1C63a,645,649 2C641,62e,645 1C642,645,62d 1C642,645,645 1C644,62d,645 1C644,62d,64a",
   "1C644,62d,649 2C644,62c,62c 2C644,62e,645 2C644,645,62d 1C645,62d,62c 1C645,62d,645",
   "1C645,62d,64a 1C645,62c,62d 1C645,62c,645 1C645,62e,62c 1C645,62e,645 2V 1C645,62c,62e",
   "1C647,645,62c 1C647,645,645 1C646,62d,645 1C646,62d,649 2C646,62c,645 1C646,62c,649",
   "1C646,645,64a 1C646,645,649 2C64a,645,645 1C628,62e,64a 1C62a,62c,64a 1C62a,62c,649",
   "1C62a,62e,64a 1C62a,62e,649 1C62a,645,64a 1C62a,645,649 1C62c,645,64a 1C62c,62d,649",
   "1C62c,645,649 1C633,62e,649 1C635,62d,64a 1C634,62d,64a 1C636,62d,64a 1C644,62c,64a",
   "1C644,645,64a 1C64a,62d,64a 1C64a,62c,64a 1C64a,645,64a 1C645,645,64a 1C642,645,64a",
   "1C646,62d,64a 1C642,645,62d 1C644,62d,645 1C639,645,64a 1C643,645,64a 1C646,62c,62d",
   "1C645,62e,64a 1C644,62c,645 1C643,645,645 1C644,62c,645 1C646,62c,62d 1C62c,62d,64a",
   "1C62d,62c,64a 1C645,62c,64a 1C641,645,64a 1C628,62d,64a 1C643,645,645 1C639,62c,645",
   "1C635,645,645 1C633,62e,64a 1C646,62c,64a 8V 20X 1C635,644,6d2 1C642,644,6d2 1C627,644,644,647",
   "1C627,643,628,631 1C645,62d,645,62f 1C635,644,639,645 1C631,633,648,644 1C639,644,64a,647",
   "1C648,633,644,645 1C635,644,649",
   "1C635,644,649,20,627,644,644,647,20,639,644,64a,647,20,648,633,644,645",
   "1C62c,644,20,62c,644,627,644,647 1C631,6cc,627,644 3V 10I 1T2c 1T3001 1X 2T3a 1T21 1T3f 2T3016",
   "7X 10V 1X 1T2014 1T2013 2C5f 2T28 1T7b 1T7d 2T3014 2T3010 2T300a 2T3008 4T300c 2V 1T5b 1T5d",
   "4C20,305 3C5f 1T2c 1T3001 2X 1T3b 1T3a 1T3f 1T21 1T2014 2T28 1T7b 1T7d 2T3014 1T23 1T26 2T2a",
   "1T2d 1T3c 1T3e 1T3d 1X 1T5c 2T24 1T40 4X 1C20,64b 1C640,64b 1C20,64c 1V 1C20,64d 1X 1C20,64e",
   "1C640,64e 1C20,64f 1C640,64f 1C20,650 1C640,650 1C20,651 1C640,651 1C20,652 1C640,652 2T621",
   "2T622 2T623 2T624 2T625 3C626 2C627 4C628 2C629 4C62a 4C62b 4C62c 4C62d 4C62e 2C62f 2C630",
   "2C631 2C632 4C633 4C634 4C635 4C636 4C637 4C638 4C639 4C63a 4C641 4C642 4C643 4C644 4C645",
   "4C646 4C647 2C648 2C649 4C64a 2C644,622 2C644,623 2C644,625 2C644,627 2X 1I 1X 20T21 1aT61",
   "24T5b 2T2985 1T2e 2T300c 1T3001 1T30fb 1T30f2 1T30a1 1T30a3 1T30a5 1T30a7 1T30a9 1T30e3 1T30e5",
   "1T30e7 1T30c3 1T30fc 1T30a2 1T30a4 1T30a6 1T30a8 2T30aa 1T30ad 1T30af 1T30b1 1T30b3 1T30b5",
   "1T30b7 1T30b9 1T30bb 1T30bd 1T30bf 1T30c1 1T30c4 1T30c6 1T30c8 6T30ca 1T30d2 1T30d5 1T30d8",
   "1T30db 5T30de 1T30e4 1T30e6 6T30e8 1T30ef 1T30f3 2T3099 1I 2T1100 1T11aa 1T1102 2T11ac 3T1103",
   "6T11b0 1T111a 3T1106 1T1121 aT1109 3X 6T1161 2X 6T1167 2X 6T116d 2X 3T1173 3X 2Ta2 1Tac",
   "1C20,304 1Ta6 1Ta5 1T20a9 1X 1T2502 4T2190 1T25a0 1T25cb 11X cV 1X 1aV 1X 13V 1X 2V 1X fV 2X",
   "eV 22X 7bV 5X 3V 4X 2dV 3X 58V 1X dV 3X 1V 2fX 2eV 82X 1dV 3X 31V fX 1cV 4X 24V 9X 1eV 5X 2bV",
   "5X 1eV 1X 25V 4X eV 2aX 28T10428 76V 2X aV 6X 24T104d8 4X 24V 4X 28V 8X 34V bX 1V bT10597 1X",
   "fT105a3 1X 7T105b3 1X 2T105bb 1X bV 1X fV 1X 7V 1X 2V 3X 34V cX 137V 9X 16V aX 8V 18X 1V 2T2d0",
   "1Te6 1T299 1T253 1X 1T2a3 1Tab66 1T2a5 1T2a4 2T256 1T1d91 1T258 1T25e 1T2a9 1T264 1T262 1T260",
   "1T29b 1T127 1T29c 1T267 1T284 2T2aa 1T26c 1T1df04 1Ta78e 1T26e 1T1df05 1T28e 1T1df06 1Tf8",
   "2T276 1T71 1T27a 1T1df08 2T27d 1T280 1T2a8 1T2a6 1Tab67 1T2a7 1T288 1T2c71 1X 1T28f 2T2a1",
   "1T298 3T1c0 1T1df0a 1T1df1e 45X 6V 2X 1V 1X 2cV 1X 2V 3X 1V 2X 17V 1X 48V 8X 9V 30X 13V 1X 2V",
   "5X 21V 3X 1bV 5X 1bV 26X 38V 4X 14V 2X 32V 1X 2V 5X 8V 1X 3V 1X 1dV 2X 3V 4X aV 7X 9V 7X 40V",
   "20X 27V 4X cV 9X 36V 3X 1dV 2X 1bV 5X 1aV 7X 4V cX 7V 50X 49V 37X 33T10cc0 dX 33V 7X 2eV 8X aV",
   "6X 10V 16T10d70 3X 1dV 8X 2V d0X 1fV 1X 2aV 1X 3V 2X 2V 10X 6V 8X 9V 21X 2eV 8X 2aV 16X 1aV",
   "26X 1cV 14X 17V 9X 4eV 4X 24V 9X 3eV 1X 5V dX 19V 7X aV 6X 35V 1X 12V 8X 27V 9X 60V 1X 14V bX",
   "12V 1X 2fV 3eX 7V 1X 1V 1X 4V 1X fV 1X bV 6X 3bV 5X aV 6X 4V 1X 8V 2X 2V 2X 16V 1X 7V 1X 2V 1X",
   "5V 1X aV 2X 2V 2X 3V 2X 1V 6X 1V 5X 7V 2X 7V 3X 5V bX aV 1X 1V 2X 1V 1X 26V 1X aV 1X 1V 2X 1V",
   "1X 4V 1X aV 1X 2V 8X 2V 1dX 5cV 1X 5V 1eX 48V 8X aV a6X 36V 2X 26V 22X 45V bX aV 6X dV 13X 3aV",
   "6X aV 6X 14V 1cX 1bV 2X fV 4X 17V b9X 3cV 64X 20T118c0 33V cX 8V 2X 1V 2X 8V 1X 2V 1X 1eV 1X",
   "2V 2X cV 9X aV 46X 8V 2X 2eV 2X bV 1bX 48V 8X 53V dX 49V 7X aV 56X 8V 58X 22V eX aV 6X 9V 1X",
   "2dV 1X eV aX 1dV 3X 20V 2X 16V 1X eV 49X 7V 1X 2V 1X 2cV 3X 1V 1X 2V 1X 9V 8X aV 6X 6V 1X 2V",
   "1X 25V 1X 2V 1X 6V 7X aV 6X 2cV 4X aV f6X 19V 7X 11V 1X 29V 3X 1dV 55X 1V fX 32V dX 39bV 66X",
   "6fV 1X 5V bX c4V a4cX 63V dX 430V 10X 16V aX f9bV 5X 247V 1ab9X 3aV 6c6X 239V 7X 1fV 1X aV 4X",
   "51V 1X aV 6X 1eV 2X 6V aX 46V aX aV 1X 7V 1X 15V 5X 13V 1b0X 3aV c6X 20T16e60 3bV 5X 19T16ebb",
   "2X 19V 2cX 4bV 4X 39V 7X 11V 40X 5V bX 7V 9X 1cd6V 29X 20V 61X 73V 21fdX 4V 1X 7V 1X 2V 1X",
   "123V fX 1V 1dX 3V 2X 1V eX 4V 8X 18cV 904X 6bV 5X dV 3X 9V 7X aV 2X 4V 4I f5cX d6V 1aT61 aT30",
   "3V 3X 1b4V 6X 17V fX 11V fX 2eV 2X 17V 9X 74V 3cX f6V aX 27V 2X 35V 1C1d157,1d165",
   "1C1d158,1d165 1C1d158,1d165,1d16e 1C1d158,1d165,1d16f 1C1d158,1d165,1d170 1C1d158,1d165,1d171",
   "1C1d158,1d165,1d172 eV 8I 40V 1C1d1b9,1d165 1C1d1ba,1d165 1C1d1b9,1d165,1d16e",
   "1C1d1ba,1d165,1d16e 1C1d1b9,1d165,1d16f 1C1d1ba,1d165,1d16f 2aV 15X 46V 7aX 14V cX 14V cX 57V",
   "9X 19V 87X 1aT61 1aT61 1aT61 7T61 1X 12T69 1aT61 1aT61 1T61 1X 2T63 2X 1T67 2X 2T6a 2X 4T6e 1X",
   "8T73 4T61 1X 1T66 1X 7T68 1X bT70 1aT61 1aT61 2T61 1X 4T64 2X 8T6a 1X 7T73 1X 1aT61 2T61 1X",
   "4T64 1X 5T69 1X 1T6f 3X 7T73 1X 1aT61 1aT61 1aT61 1aT61 1aT61 1aT61 1aT61 1aT61 1aT61 1aT61",
   "1aT61 1aT61 1aT61 1T131 1T237 2X 11T3b1 1T3b8 7T3c3 1T2207 11T3b1 2C3c3 6T3c4 1T2202 1T3b5",
   "1T3b8 1T3ba 1T3c6 1T3c1 1T3c0 11T3b1 1T3b8 7T3c3 1T2207 11T3b1 2C3c3 6T3c4 1T2202 1T3b5 1T3b8",
   "1T3ba 1T3c6 1T3c1 1T3c0 11T3b1 1T3b8 7T3c3 1T2207 11T3b1 2C3c3 6T3c4 1T2202 1T3b5 1T3b8 1T3ba",
   "1T3c6 1T3c1 1T3c0 11T3b1 1T3b8 7T3c3 1T2207 11T3b1 2C3c3 6T3c4 1T2202 1T3b5 1T3b8 1T3ba 1T3c6",
   "1T3c1 1T3c0 11T3b1 1T3b8 7T3c3 1T2207 11T3b1 2C3c3 6T3c4 1T2202 1T3b5 1T3b8 1T3ba 1T3c6 1T3c1",
   "1T3c0 2C3dd 2X aT30 aT30 aT30 aT30 aT30 28cV fX 5V 1X fV 450X 1fV 6X 6V d5X 7V 1X 11V 2X 7V 1X",
   "2V 1X 5V 5X 9T430 3T43a bT43e 1T44b 2T44d 1Ta689 1T4d9 1T456 1T458 1T4e9 1T4af 1T4cf 9T430",
   "2T43a 2T43e 1T441 6T443 2T44a 1T491 1T456 1T455 1T45f 1T4ab 1Ta651 1T4b1 21X 1V 70X 2dV 3X eV",
   "2X aV 4X 2V 140X 1fV 11X 3aV 5X 1V 1d0X 2aV d6X 2bV 4X 1V c0X 1fV 1X 16V 8X 2V e0X 7V 1X 4V 1X",
   "2V 1X fV 1X c5V 2X 10V 29X 22T1e922 2aV 4X aV 4X 2V 311X 44V 4cX 3dV c2X 2T627 1T62c 1T62f 1X",
   "1T648 1T632 1T62d 1T637 1T64a 4T643 1T633 1T639 1T641 1T635 1T642 1T631 1T634 2T62a 1T62e",
   "1T630 1T636 1T638 1T63a 1T66e 1T6ba 1T6a1 1T66f 1X 1T628 1T62c 1X 1T647 2X 1T62d 1X 1T64a",
   "4T643 1T633 1T639 1T641 1T635 1T642 1X 1T634 2T62a 1T62e 1X 1T636 1X 1T63a 6X 1T62c 4X 1T62d",
   "1X 1T64a 1X 1T644 1X 1T646 1T633 1T639 1X 1T635 1T642 1X 1T634 2X 1T62e 1X 1T636 1X 1T63a 1X",
   "1T6ba 1X 1T66f 1X 1T628 1T62c 1X 1T647 2X 1T62d 1T637 1T64a 1T643 1X 2T645 1T633 1T639 1T641",
   "1T635 1T642 1X 1T634 2T62a 1T62e 1X 1T636 1T638 1T63a 1T66e 1X 1T6a1 1X 2T627 1T62c 1T62f",
   "2T647 1T632 1T62d 1T637 1T64a 1X 3T644 1T633 1T639 1T641 1T635 1T642 1T631 1T634 2T62a 1T62e",
   "1T630 1T636 1T638 1T63a 5X 1T628 1T62c 1T62f 1X 1T648 1T632 1T62d 1T637 1T64a 1X 3T644 1T633",
   "1T639 1T641 1T635 1T642 1T631 1T634 2T62a 1T62e 1T630 1T636 1T638 1T63a 34X 2V 10eX 2cV 4X 64V",
   "cX fV 2X fV 1X fV 1X 25V bX 1C30,2c 1C31,2c 1C32,2c 1C33,2c 1C34,2c 1C35,2c 1C36,2c 1C37,2c",
   "1C38,2c 1C39,2c 5V 1C28,61,29 1C28,62,29 1C28,63,29 1C28,64,29 1C28,65,29 1C28,66,29",
   "1C28,67,29 1C28,68,29 1C28,69,29 1C28,6a,29 1C28,6b,29 1C28,6c,29 1C28,6d,29 1C28,6e,29",
   "1C28,6f,29 1C28,70,29 1C28,71,29 1C28,72,29 1C28,73,29 1C28,74,29 1C28,75,29 1C28,76,29",
   "1C28,77,29 1C28,78,29 1C28,79,29 1C28,7a,29 1C3014,73,3015 1T63 1T72 1C63,64 1C77,7a 1V 1aT61",
   "1C68,76 1C6d,76 1C73,64 1C73,73 1C70,70,76 1C77,63 1aV 1C6d,63 1C6d,64 1C6d,72 23V 1C64,6a 1dV",
   "38X 1aV 1C307b,304b 1C30b3,30b3 1T30b5 dX 1T624b 1T5b57 1T53cc 1T30c7 1T4e8c 1T591a 1T89e3",
   "1T5929 1T4ea4 1T6620 1T7121 1T6599 1T524d 1T5f8c 1T518d 1T65b0 1T521d 1T7d42 1T751f 1T8ca9",
   "1T58f0 1T5439 1T6f14 1T6295 1T6355 1T4e00 1T4e09 1T904a 1T5de6 1T4e2d 1T53f3 1T6307 1T8d70",
   "1T6253 1T7981 1T7a7a 1T5408 1T6e80 1T6709 1T6708 1T7533 1T5272 1T55b6 1T914d 4X",
   "1C3014,672c,3015 1C3014,4e09,3015 1C3014,4e8c,3015 1C3014,5b89,3015 1C3014,70b9,3015",
   "1C3014,6253,3015 1C3014,76d7,3015 1C3014,52dd,3015 1C3014,6557,3015 7X 1T5f97 1T53ef eX 6V 9aX",
   "3d9V 3X 11V 3X dV 3X daV 6X cV 4X 1V fX cV 4X 38V 8X aV 6X 28V 8X 1eV 2X cV 4X 2V eX 9V 27X",
   "158V 8X eV 2X dV 3X bV 3X 39V 1X 1V 4X 10V 2X cV 4X aV 7X 93V 1X 5cV aT30 1V 405X a6e0V 20X",
   "111eV 2X 168eV 2X 1d31V fX 26eV 9a2X 1T4e3d 1T4e38 1T4e41 1T20122 1T4f60 1T4fae 1T4fbb 1T5002",
   "1T507a 1T5099 1T50e7 1T50cf 1T349e 1T2063a 1T514d 1T5154 1T5164 1T5177 1T2051c 1T34b9 1T5167",
   "1T518d 1T2054b 1T5197 1T51a4 1T4ecc 1T51ac 1T51b5 1T291df 1T51f5 1T5203 1T34df 1T523b 1T5246",
   "1T5272 1T5277 1T3515 1T52c7 1T52c9 1T52e4 1T52fa 2T5305 1T5317 1T5349 1T5351 1T535a 1T5373",
   "1T537d 3C537f 1T20a2c 1T7070 1T53ca 1T53df 1T20b63 1T53eb 1T53f1 1T5406 1T549e 1T5438 1T5448",
   "1T5468 1T54a2 1T54f6 1T5510 1T5553 1T5563 2C5584 1T5599 1T55ab 1T55b3 1T55c2 1T5716 1T5606",
   "1T5717 1T5651 1T5674 1T5207 1T58ee 1T57ce 1T57f4 1T580d 1T578b 1T5832 1T5831 1T58ac 1T214e4",
   "1T58f2 1T58f7 1T5906 1T591a 1T5922 1T5962 1T216a8 1T216ea 1T59ec 1T5a1b 1T5a27 1T59d8 1T5a66",
   "1T36ee 1T36fc 1T5b08 2C5b3e 1T219c8 1T5bc3 1T5bd8 1T5be7 1T5bf3 1T21b18 1T5bff 1T5c06 1T5f53",
   "1T5c22 1T3781 1T5c60 1T5c6e 1T5cc0 1T5c8d 1T21de4 1T5d43 1T21de6 1T5d6e 1T5d6b 1T5d7c 2T5de1",
   "1T382f 1T5dfd 1T5e28 1T5e3d 1T5e69 1T3862 1T22183 1T387c 1T5eb0 1T5eb3 1T5eb6 1T5eca 1T2a392",
   "1T5efe 2C22331 1T8201 2C5f22 1T38c7 1T232b8 1T261da 1T5f62 1T5f6b 1T38e3 1T5f9a 1T5fcd 1T5fd7",
   "1T5ff9 1T6081 1T393a 1T391c 1T6094 1T226d4 1T60c7 1T6148 1T614c 1T614e 1T614c 1T617a 1T618e",
   "1T61b2 1T61a4 1T61af 1T61de 1T61f2 1T61f6 1T6210 1T621b 1T625d 1T62b1 1T62d4 1T6350 1T22b0c",
   "1T633d 1T62fc 1T6368 1T6383 1T63e4 1T22bf1 1T6422 1T63c5 1T63a9 1T3a2e 1T6469 1T647e 1T649d",
   "1T6477 1T3a6c 1T654f 1T656c 1T2300a 1T65e3 1T66f8 1T6649 1T3b19 1T6691 1T3b08 1T3ae4 1T5192",
   "1T5195 1T6700 1T669c 1T80ad 1T43d9 1T6717 1T671b 1T6721 1T675e 1T6753 1T233c3 1T3b49 1T67fa",
   "1T6785 1T6852 1T6885 1T2346d 1T688e 1T681f 1T6914 1T3b9d 1T6942 1T69a3 1T69ea 1T6aa8 1T236a3",
   "1T6adb 1T3c18 1T6b21 1T238a7 1T6b54 1T3c4e 1T6b72 1T6b9f 2T6bba 1T23a8d 1T21d0b 1T23afa 1T6c4e",
   "1T23cbc 1T6cbf 1T6ccd 1T6c67 1T6d16 1T6d3e 1T6d77 1T6d41 1T6d69 1T6d78 1T6d85 1T23d1e 1T6d34",
   "1T6e2f 1T6e6e 1T3d33 1T6ecb 1T6ec7 1T23ed1 1T6df9 1T6f6e 1T23f5e 1T23f8e 1T6fc6 1T7039 1T701e",
   "1T701b 1T3d96 1T704a 1T707d 1T7077 1T70ad 1T20525 1T7145 1T24263 1T719c 1T243ab 1T7228 1T7235",
   "1T7250 1T24608 1T7280 1T7295 1T24735 1T24814 1T737a 1T738b 1T3eac 1T73a5 2C3eb8 1T7447 1T745c",
   "1T7471 1T7485 1T74ca 1T3f1b 1T7524 1T24c36 1T753e 1T24c92 1T7570 1T2219f 1T7610 1T24fa1",
   "1T24fb8 1T25044 1T3ffc 1T4008 1T76f4 1T250f3 1T250f2 1T25119 1T25133 2T771e 1T771f 1T774a",
   "1T4039 1T778b 1T4046 1T4096 1T2541d 1T784e 1T788c 1T78cc 1T40e3 1T25626 1T7956 1T2569a 1T256c5",
   "1T798f 1T79eb 1T412f 1T7a40 1T7a4a 1T7a4f 1T2597c 2C25aa7 1T7aee 1T4202 1T25bab 1T7bc6 1T7bc9",
   "1T4227 1T25c80 1T7cd2 1T42a0 1T7ce8 1T7ce3 1T7d00 1T25f86 1T7d63 1T4301 1T7dc7 1T7e02 1T7e45",
   "1T4334 1T26228 1T26247 1T4359 1T262d9 1T7f7a 1T2633e 1T7f95 1T7ffa 1T8005 1T264da 1T26523",
   "1T8060 1T265a8 1T8070 1T2335f 1T43d5 1T80b2 1T8103 1T440b 1T813e 1T5ab5 1T267a7 1T267b5",
   "1T23393 1T2339c 1T8201 1T8204 1T8f9e 1T446b 1T8291 1T828b 1T829d 1T52b3 1T82b1 1T82b3 1T82bd",
   "1T82e6 1T26b3c 1T82e5 1T831d 1T8363 1T83ad 1T8323 1T83bd 1T83e7 1T8457 1T8353 1T83ca 1T83cc",
   "1T83dc 1T26c36 1T26d6b 1T26cd5 1T452b 1T84f1 1T84f3 1T8516 1T273ca 1T8564 1T26f2c 1T455d",
   "1T4561 1T26fb1 1T270d2 1T456b 1T8650 1T865c 1T8667 1T8669 1T86a9 1T8688 1T870e 1T86e2 1T8779",
   "1T8728 1T876b 1T8786 1T45d7 1T87e1 1T8801 1T45f9 1T8860 1T8863 1T27667 1T88d7 1T88de 1T4635",
   "1T88fa 1T34bb 1T278ae 1T27966 1T46be 1T46c7 1T8aa0 1T8aed 1T8b8a 1T8c55 1T27ca8 1T8cab 1T8cc1",
   "1T8d1b 1T8d77 1T27f2f 1T20804 1T8dcb 1T8dbc 1T8df0 1T208de 1T8ed4 1T8f38 1T285d2 1T285ed",
   "1T9094 1T90f1 1T9111 1T2872e 1T911b 1T9238 2T92d7 1T927c 1T93f9 1T9415 1T28bfa 1T958b 1T4995",
   "1T95b7 1T28d77 1T49e6 1T96c3 1T5db2 1T9723 1T29145 1T2921a 1T4a6e 1T4a76 1T97e0 1T2940a 1T4ab2",
   "1T29496 2C980b 1T9829 1T295b6 1T98e2 1T4b33 1T9929 1T99a7 1T99c2 1T99fe 1T4bce 1T29b30 1T9b12",
   "1T9c40 1T9cfd 1T4cce 1T4ced 1T9d67 1T2a0ce 1T4cf8 1T2a105 1T2a20e 1T2a291 1T9ebb 1T4d56 1T9ef9",
   "1T9efe 1T9f05 1T9f0f 1T9f16 1T9f3b 1T2a600 5e2X 134bV 5X 212aV acc86X f0I 2fe10X"]

/-- The rule of a run for one of its characters. -/
def ofRun (r : Text.Run) (c : Char) : NameRule :=
  let offset := c.toNat - r.first
  match r.letter, r.points with
  | 'V', _ => .keep
  | 'I', _ => .replace []
  | 'T', [start] => .replace [Char.ofNat (start + offset)]
  | 'A', _ => if offset % 2 = 0 then .replace [Char.ofNat (c.toNat + 1)] else .keep
  | 'C', points => .replace (points.map Char.ofNat)
  | _, _ => .refuse

/-- The rule for a character. -/
def ofChar (c : Char) : NameRule :=
  match Text.Run.find? runs c with
  | some r => ofRun r c
  | none => .refuse

end NameRule

end LiveConfig.Url
