import SourceAtlas.Unicode.Basic

/-!
Compatibility composition: the form in which two spellings of one identifier become equal. A text is
taken apart into its basic characters, marks are put in their canonical order, and pairs are put together
again. Hangul syllables follow their arithmetic, everything else the tables, which are kept as text
(`first:form form ...`, a form being code points joined by `+`) and read once.
-/

namespace SourceAtlas.Unicode

/-! ## Tables -/

/-- The full decompositions of runs of consecutive code points. -/
def decompositionText : List String := [
  "A0:20;A8:20+308;AA:61;AF:20+304;B2:32 33 20+301 3BC;B8:20+327 31 6F",
  "BC:31+2044+34 31+2044+32 33+2044+34;C0:41+300 41+301 41+302 41+303 41+308 41+30A",
  "C7:43+327 45+300 45+301 45+302 45+308 49+300 49+301 49+302 49+308",
  "D1:4E+303 4F+300 4F+301 4F+302 4F+303 4F+308;D9:55+300 55+301 55+302 55+308 59+301",
  "E0:61+300 61+301 61+302 61+303 61+308 61+30A",
  "E7:63+327 65+300 65+301 65+302 65+308 69+300 69+301 69+302 69+308",
  "F1:6E+303 6F+300 6F+301 6F+302 6F+303 6F+308;F9:75+300 75+301 75+302 75+308 79+301",
  "FF:79+308 41+304 61+304 41+306 61+306 41+328 61+328 43+301 63+301 43+302 63+302 43+307",
  "10B:63+307 43+30C 63+30C 44+30C 64+30C",
  "112:45+304 65+304 45+306 65+306 45+307 65+307 45+328 65+328 45+30C 65+30C 47+302 67+302",
  "11E:47+306 67+306 47+307 67+307 47+327 67+327 48+302 68+302",
  "128:49+303 69+303 49+304 69+304 49+306 69+306 49+328 69+328 49+307",
  "132:49+4A 69+6A 4A+302 6A+302 4B+327 6B+327",
  "139:4C+301 6C+301 4C+327 6C+327 4C+30C 6C+30C 4C+B7 6C+B7",
  "143:4E+301 6E+301 4E+327 6E+327 4E+30C 6E+30C 2BC+6E",
  "14C:4F+304 6F+304 4F+306 6F+306 4F+30B 6F+30B",
  "154:52+301 72+301 52+327 72+327 52+30C 72+30C 53+301 73+301 53+302 73+302 53+327 73+327",
  "160:53+30C 73+30C 54+327 74+327 54+30C 74+30C",
  "168:55+303 75+303 55+304 75+304 55+306 75+306 55+30A 75+30A 55+30B 75+30B 55+328 75+328",
  "174:57+302 77+302 59+302 79+302 59+308 5A+301 7A+301 5A+307 7A+307 5A+30C 7A+30C 73",
  "1A0:4F+31B 6F+31B;1AF:55+31B 75+31B",
  "1C4:44+5A+30C 44+7A+30C 64+7A+30C 4C+4A 4C+6A 6C+6A 4E+4A 4E+6A 6E+6A 41+30C 61+30C 49+30C",
  "1D0:69+30C 4F+30C 6F+30C 55+30C 75+30C 55+308+304 75+308+304 55+308+301 75+308+301",
  "1D9:55+308+30C 75+308+30C 55+308+300 75+308+300",
  "1DE:41+308+304 61+308+304 41+307+304 61+307+304 C6+304 E6+304",
  "1E6:47+30C 67+30C 4B+30C 6B+30C 4F+328 6F+328 4F+328+304 6F+328+304 1B7+30C 292+30C 6A+30C",
  "1F1:44+5A 44+7A 64+7A 47+301 67+301",
  "1F8:4E+300 6E+300 41+30A+301 61+30A+301 C6+301 E6+301 D8+301 F8+301 41+30F 61+30F 41+311",
  "203:61+311 45+30F 65+30F 45+311 65+311 49+30F 69+30F 49+311 69+311 4F+30F 6F+30F 4F+311",
  "20F:6F+311 52+30F 72+30F 52+311 72+311 55+30F 75+30F 55+311 75+311 53+326 73+326 54+326",
  "21B:74+326;21E:48+30C 68+30C",
  "226:41+307 61+307 45+327 65+327 4F+308+304 6F+308+304 4F+303+304 6F+303+304 4F+307 6F+307",
  "230:4F+307+304 6F+307+304 59+304 79+304;2B0:68 266 6A 72 279 27B 281 77 79",
  "2D8:20+306 20+307 20+30A 20+328 20+303 20+30B;2E0:263 6C 73 78 295;340:300 301;343:313 308+301",
  "374:2B9;37A:20+345;37E:3B;384:20+301 20+308+301 391+301 B7 395+301 397+301 399+301;38C:39F+301",
  "38E:3A5+301 3A9+301 3B9+308+301",
  "3AA:399+308 3A5+308 3B1+301 3B5+301 3B7+301 3B9+301 3C5+308+301",
  "3CA:3B9+308 3C5+308 3BF+301 3C5+301 3C9+301;3D0:3B2 3B8 3A5 3A5+301 3A5+308 3C6 3C0",
  "3F0:3BA 3C1 3C2;3F4:398 3B5;3F9:3A3;400:415+300 415+308;403:413+301;407:406+308",
  "40C:41A+301 418+300 423+306;419:418+306;439:438+306;450:435+300 435+308;453:433+301",
  "457:456+308;45C:43A+301 438+300 443+306;476:474+30F 475+30F;4C1:416+306 436+306",
  "4D0:410+306 430+306 410+308 430+308;4D6:415+306 435+306",
  "4DA:4D8+308 4D9+308 416+308 436+308 417+308 437+308",
  "4E2:418+304 438+304 418+308 438+308 41E+308 43E+308",
  "4EA:4E8+308 4E9+308 42D+308 44D+308 423+304 443+304 423+308 443+308 423+30B 443+30B 427+308",
  "4F5:447+308;4F8:42B+308 44B+308;587:565+582;622:627+653 627+654 648+654 627+655 64A+654",
  "675:627+674 648+674 6C7+674 64A+674;6C0:6D5+654;6C2:6C1+654;6D3:6D2+654;929:928+93C",
  "931:930+93C;934:933+93C;958:915+93C 916+93C 917+93C 91C+93C 921+93C 922+93C 92B+93C 92F+93C",
  "9CB:9C7+9BE 9C7+9D7;9DC:9A1+9BC 9A2+9BC;9DF:9AF+9BC;A33:A32+A3C;A36:A38+A3C",
  "A59:A16+A3C A17+A3C A1C+A3C;A5E:A2B+A3C;B48:B47+B56;B4B:B47+B3E B47+B57;B5C:B21+B3C B22+B3C",
  "B94:B92+BD7;BCA:BC6+BBE BC7+BBE BC6+BD7;C48:C46+C56;CC0:CBF+CD5;CC7:CC6+CD5 CC6+CD6",
  "CCA:CC6+CC2 CC6+CC2+CD5;D4A:D46+D3E D47+D3E D46+D57;DDA:DD9+DCA",
  "DDC:DD9+DCF DD9+DCF+DCA DD9+DDF;E33:E4D+E32;EB3:ECD+EB2;EDC:EAB+E99 EAB+EA1;F0C:F0B",
  "F43:F42+FB7;F4D:F4C+FB7;F52:F51+FB7;F57:F56+FB7;F5C:F5B+FB7;F69:F40+FB5;F73:F71+F72",
  "F75:F71+F74 FB2+F80 FB2+F71+F80 FB3+F80 FB3+F71+F80;F81:F71+F80;F93:F92+FB7;F9D:F9C+FB7",
  "FA2:FA1+FB7;FA7:FA6+FB7;FAC:FAB+FB7;FB9:F90+FB5;1026:1025+102E;10FC:10DC;1B06:1B05+1B35",
  "1B08:1B07+1B35;1B0A:1B09+1B35;1B0C:1B0B+1B35;1B0E:1B0D+1B35;1B12:1B11+1B35;1B3B:1B3A+1B35",
  "1B3D:1B3C+1B35;1B40:1B3E+1B35 1B3F+1B35;1B43:1B42+1B35;1D2C:41 C6 42",
  "1D30:44 45 18E 47 48 49 4A 4B 4C 4D 4E",
  "1D3C:4F 222 50 52 54 55 57 61 250 251 1D02 62 64 65 259 25B 25C 67",
  "1D4F:6B 6D 14B 6F 254 1D16 1D17 70 74 75 1D1D 26F 76 1D25 3B2 3B3 3B4 3C6 3C7 69 72 75 76",
  "1D66:3B2 3B3 3C1 3C6 3C7;1D78:43D",
  "1D9B:252 63 255 F0 25C 66 25F 261 265 268 269 26A 1D7B 29D 26D 1D85 29F 271 270 272 273 274",
  "1DB1:275 278 282 283 1AB 289 28A 1D1C 28B 28C 7A 290 291 292 3B8",
  "1E00:41+325 61+325 42+307 62+307 42+323 62+323 42+331 62+331 43+327+301 63+327+301 44+307",
  "1E0B:64+307 44+323 64+323 44+331 64+331 44+327 64+327 44+32D 64+32D 45+304+300 65+304+300",
  "1E16:45+304+301 65+304+301 45+32D 65+32D 45+330 65+330 45+327+306 65+327+306 46+307 66+307",
  "1E20:47+304 67+304 48+307 68+307 48+323 68+323 48+308 68+308 48+327 68+327 48+32E 68+32E",
  "1E2C:49+330 69+330 49+308+301 69+308+301 4B+301 6B+301 4B+323 6B+323 4B+331 6B+331 4C+323",
  "1E37:6C+323 4C+323+304 6C+323+304 4C+331 6C+331 4C+32D 6C+32D 4D+301 6D+301 4D+307 6D+307",
  "1E42:4D+323 6D+323 4E+307 6E+307 4E+323 6E+323 4E+331 6E+331 4E+32D 6E+32D 4F+303+301",
  "1E4D:6F+303+301 4F+303+308 6F+303+308 4F+304+300 6F+304+300 4F+304+301 6F+304+301 50+301",
  "1E55:70+301 50+307 70+307 52+307 72+307 52+323 72+323 52+323+304 72+323+304 52+331 72+331",
  "1E60:53+307 73+307 53+323 73+323 53+301+307 73+301+307 53+30C+307 73+30C+307 53+323+307",
  "1E69:73+323+307 54+307 74+307 54+323 74+323 54+331 74+331 54+32D 74+32D 55+324 75+324 55+330",
  "1E75:75+330 55+32D 75+32D 55+303+301 75+303+301 55+304+308 75+304+308 56+303 76+303 56+323",
  "1E7F:76+323 57+300 77+300 57+301 77+301 57+308 77+308 57+307 77+307 57+323 77+323 58+307",
  "1E8B:78+307 58+308 78+308 59+307 79+307 5A+302 7A+302 5A+323 7A+323 5A+331 7A+331 68+331",
  "1E97:74+308 77+30A 79+30A 61+2BE 73+307",
  "1EA0:41+323 61+323 41+309 61+309 41+302+301 61+302+301 41+302+300 61+302+300 41+302+309",
  "1EA9:61+302+309 41+302+303 61+302+303 41+323+302 61+323+302 41+306+301 61+306+301 41+306+300",
  "1EB1:61+306+300 41+306+309 61+306+309 41+306+303 61+306+303 41+323+306 61+323+306 45+323",
  "1EB9:65+323 45+309 65+309 45+303 65+303 45+302+301 65+302+301 45+302+300 65+302+300",
  "1EC2:45+302+309 65+302+309 45+302+303 65+302+303 45+323+302 65+323+302 49+309 69+309 49+323",
  "1ECB:69+323 4F+323 6F+323 4F+309 6F+309 4F+302+301 6F+302+301 4F+302+300 6F+302+300",
  "1ED4:4F+302+309 6F+302+309 4F+302+303 6F+302+303 4F+323+302 6F+323+302 4F+31B+301 6F+31B+301",
  "1EDC:4F+31B+300 6F+31B+300 4F+31B+309 6F+31B+309 4F+31B+303 6F+31B+303 4F+31B+323 6F+31B+323",
  "1EE4:55+323 75+323 55+309 75+309 55+31B+301 75+31B+301 55+31B+300 75+31B+300 55+31B+309",
  "1EED:75+31B+309 55+31B+303 75+31B+303 55+31B+323 75+31B+323 59+300 79+300 59+323 79+323",
  "1EF6:59+309 79+309 59+303 79+303",
  "1F00:3B1+313 3B1+314 3B1+313+300 3B1+314+300 3B1+313+301 3B1+314+301 3B1+313+342 3B1+314+342",
  "1F08:391+313 391+314 391+313+300 391+314+300 391+313+301 391+314+301 391+313+342 391+314+342",
  "1F10:3B5+313 3B5+314 3B5+313+300 3B5+314+300 3B5+313+301 3B5+314+301",
  "1F18:395+313 395+314 395+313+300 395+314+300 395+313+301 395+314+301",
  "1F20:3B7+313 3B7+314 3B7+313+300 3B7+314+300 3B7+313+301 3B7+314+301 3B7+313+342 3B7+314+342",
  "1F28:397+313 397+314 397+313+300 397+314+300 397+313+301 397+314+301 397+313+342 397+314+342",
  "1F30:3B9+313 3B9+314 3B9+313+300 3B9+314+300 3B9+313+301 3B9+314+301 3B9+313+342 3B9+314+342",
  "1F38:399+313 399+314 399+313+300 399+314+300 399+313+301 399+314+301 399+313+342 399+314+342",
  "1F40:3BF+313 3BF+314 3BF+313+300 3BF+314+300 3BF+313+301 3BF+314+301",
  "1F48:39F+313 39F+314 39F+313+300 39F+314+300 39F+313+301 39F+314+301",
  "1F50:3C5+313 3C5+314 3C5+313+300 3C5+314+300 3C5+313+301 3C5+314+301 3C5+313+342 3C5+314+342",
  "1F59:3A5+314;1F5B:3A5+314+300;1F5D:3A5+314+301",
  "1F5F:3A5+314+342 3C9+313 3C9+314 3C9+313+300 3C9+314+300 3C9+313+301 3C9+314+301 3C9+313+342",
  "1F67:3C9+314+342 3A9+313 3A9+314 3A9+313+300 3A9+314+300 3A9+313+301 3A9+314+301 3A9+313+342",
  "1F6F:3A9+314+342 3B1+300 3B1+301 3B5+300 3B5+301 3B7+300 3B7+301 3B9+300 3B9+301 3BF+300",
  "1F79:3BF+301 3C5+300 3C5+301 3C9+300 3C9+301",
  "1F80:3B1+313+345 3B1+314+345 3B1+313+300+345 3B1+314+300+345 3B1+313+301+345 3B1+314+301+345",
  "1F86:3B1+313+342+345 3B1+314+342+345 391+313+345 391+314+345 391+313+300+345 391+314+300+345",
  "1F8C:391+313+301+345 391+314+301+345 391+313+342+345 391+314+342+345 3B7+313+345 3B7+314+345",
  "1F92:3B7+313+300+345 3B7+314+300+345 3B7+313+301+345 3B7+314+301+345 3B7+313+342+345",
  "1F97:3B7+314+342+345 397+313+345 397+314+345 397+313+300+345 397+314+300+345 397+313+301+345",
  "1F9D:397+314+301+345 397+313+342+345 397+314+342+345 3C9+313+345 3C9+314+345 3C9+313+300+345",
  "1FA3:3C9+314+300+345 3C9+313+301+345 3C9+314+301+345 3C9+313+342+345 3C9+314+342+345",
  "1FA8:3A9+313+345 3A9+314+345 3A9+313+300+345 3A9+314+300+345 3A9+313+301+345 3A9+314+301+345",
  "1FAE:3A9+313+342+345 3A9+314+342+345 3B1+306 3B1+304 3B1+300+345 3B1+345 3B1+301+345",
  "1FB6:3B1+342 3B1+342+345 391+306 391+304 391+300 391+301 391+345 20+313 3B9 20+313 20+342",
  "1FC1:20+308+342 3B7+300+345 3B7+345 3B7+301+345",
  "1FC6:3B7+342 3B7+342+345 395+300 395+301 397+300 397+301 397+345 20+313+300 20+313+301",
  "1FCF:20+313+342 3B9+306 3B9+304 3B9+308+300 3B9+308+301",
  "1FD6:3B9+342 3B9+308+342 399+306 399+304 399+300 399+301",
  "1FDD:20+314+300 20+314+301 20+314+342 3C5+306 3C5+304 3C5+308+300 3C5+308+301 3C1+313",
  "1FE5:3C1+314 3C5+342 3C5+308+342 3A5+306 3A5+304 3A5+300 3A5+301 3A1+314 20+308+300",
  "1FEE:20+308+301 60;1FF2:3C9+300+345 3C9+345 3C9+301+345",
  "1FF6:3C9+342 3C9+342+345 39F+300 39F+301 3A9+300 3A9+301 3A9+345 20+301 20+314",
  "2000:20 20 20 20 20 20 20 20 20 20 20;2011:2010;2017:20+333;2024:2E 2E+2E 2E+2E+2E;202F:20",
  "2033:2032+2032 2032+2032+2032;2036:2035+2035 2035+2035+2035;203C:21+21;203E:20+305",
  "2047:3F+3F 3F+21 21+3F;2057:2032+2032+2032+2032;205F:20;2070:30 69",
  "2074:34 35 36 37 38 39 2B 2212 3D 28 29 6E 30 31 32 33 34 35 36 37 38 39 2B 2212 3D 28 29",
  "2090:61 65 6F 78 259 68 6B 6C 6D 6E 70 73 74;20A8:52+73;2100:61+2F+63 61+2F+73 43 B0+43",
  "2105:63+2F+6F 63+2F+75 190;2109:B0+46 67 48 48 48 68 127 49 49 4C 6C;2115:4E 4E+6F",
  "2119:50 51 52 52 52;2120:53+4D 54+45+4C 54+4D;2124:5A;2126:3A9;2128:5A;212A:4B 41+30A 42 43",
  "212F:65 45 46;2133:4D 6F 5D0 5D1 5D2 5D3 69;213B:46+41+58 3C0 3B3 393 3A0 2211",
  "2145:44 64 65 69 6A",
  "2150:31+2044+37 31+2044+39 31+2044+31+30 31+2044+33 32+2044+33 31+2044+35 32+2044+35",
  "2157:33+2044+35 34+2044+35 31+2044+36 35+2044+36 31+2044+38 33+2044+38 35+2044+38 37+2044+38",
  "215F:31+2044 49 49+49 49+49+49 49+56 56 56+49 56+49+49 56+49+49+49 49+58 58 58+49 58+49+49",
  "216C:4C 43 44 4D 69 69+69 69+69+69 69+76 76 76+69 76+69+69 76+69+69+69 69+78 78 78+69",
  "217B:78+69+69 6C 63 64 6D;2189:30+2044+33;219A:2190+338 2192+338;21AE:2194+338",
  "21CD:21D0+338 21D4+338 21D2+338;2204:2203+338;2209:2208+338;220C:220B+338;2224:2223+338",
  "2226:2225+338;222C:222B+222B 222B+222B+222B;222F:222E+222E 222E+222E+222E;2241:223C+338",
  "2244:2243+338;2247:2245+338;2249:2248+338;2260:3D+338;2262:2261+338",
  "226D:224D+338 3C+338 3E+338 2264+338 2265+338;2274:2272+338 2273+338;2278:2276+338 2277+338",
  "2280:227A+338 227B+338;2284:2282+338 2283+338;2288:2286+338 2287+338",
  "22AC:22A2+338 22A8+338 22A9+338 22AB+338;22E0:227C+338 227D+338 2291+338 2292+338",
  "22EA:22B2+338 22B3+338 22B4+338 22B5+338;2329:3008 3009",
  "2460:31 32 33 34 35 36 37 38 39 31+30 31+31 31+32 31+33 31+34 31+35 31+36 31+37 31+38 31+39",
  "2473:32+30 28+31+29 28+32+29 28+33+29 28+34+29 28+35+29 28+36+29 28+37+29 28+38+29 28+39+29",
  "247D:28+31+30+29 28+31+31+29 28+31+32+29 28+31+33+29 28+31+34+29 28+31+35+29 28+31+36+29",
  "2484:28+31+37+29 28+31+38+29 28+31+39+29 28+32+30+29 31+2E 32+2E 33+2E 34+2E 35+2E 36+2E",
  "248E:37+2E 38+2E 39+2E 31+30+2E 31+31+2E 31+32+2E 31+33+2E 31+34+2E 31+35+2E 31+36+2E",
  "2498:31+37+2E 31+38+2E 31+39+2E 32+30+2E 28+61+29 28+62+29 28+63+29 28+64+29 28+65+29",
  "24A1:28+66+29 28+67+29 28+68+29 28+69+29 28+6A+29 28+6B+29 28+6C+29 28+6D+29 28+6E+29",
  "24AA:28+6F+29 28+70+29 28+71+29 28+72+29 28+73+29 28+74+29 28+75+29 28+76+29 28+77+29",
  "24B3:28+78+29 28+79+29 28+7A+29 41 42 43 44 45 46 47 48 49 4A 4B 4C 4D 4E 4F 50 51 52 53 54",
  "24CA:55 56 57 58 59 5A 61 62 63 64 65 66 67 68 69 6A 6B 6C 6D 6E 6F 70 71 72 73 74 75 76 77",
  "24E7:78 79 7A 30;2A0C:222B+222B+222B+222B;2A74:3A+3A+3D 3D+3D 3D+3D+3D;2ADC:2ADD+338",
  "2C7C:6A 56;2D6F:2D61;2E9F:6BCD;2EF3:9F9F",
  "2F00:4E00 4E28 4E36 4E3F 4E59 4E85 4E8C 4EA0 4EBA 513F 5165 516B 5182 5196 51AB 51E0 51F5",
  "2F11:5200 529B 52F9 5315 531A 5338 5341 535C 5369 5382 53B6 53C8 53E3 56D7 571F 58EB 5902",
  "2F22:590A 5915 5927 5973 5B50 5B80 5BF8 5C0F 5C22 5C38 5C6E 5C71 5DDB 5DE5 5DF1 5DFE 5E72",
  "2F33:5E7A 5E7F 5EF4 5EFE 5F0B 5F13 5F50 5F61 5F73 5FC3 6208 6236 624B 652F 6534 6587 6597",
  "2F44:65A4 65B9 65E0 65E5 66F0 6708 6728 6B20 6B62 6B79 6BB3 6BCB 6BD4 6BDB 6C0F 6C14 6C34",
  "2F55:706B 722A 7236 723B 723F 7247 7259 725B 72AC 7384 7389 74DC 74E6 7518 751F 7528 7530",
  "2F66:758B 7592 7676 767D 76AE 76BF 76EE 77DB 77E2 77F3 793A 79B8 79BE 7A74 7ACB 7AF9 7C73",
  "2F77:7CF8 7F36 7F51 7F8A 7FBD 8001 800C 8012 8033 807F 8089 81E3 81EA 81F3 81FC 820C 821B",
  "2F88:821F 826E 8272 8278 864D 866B 8840 884C 8863 897E 898B 89D2 8A00 8C37 8C46 8C55 8C78",
  "2F99:8C9D 8D64 8D70 8DB3 8EAB 8ECA 8F9B 8FB0 8FB5 9091 9149 91C6 91CC 91D1 9577 9580 961C",
  "2FAA:96B6 96B9 96E8 9751 975E 9762 9769 97CB 97ED 97F3 9801 98A8 98DB 98DF 9996 9999 99AC",
  "2FBB:9AA8 9AD8 9ADF 9B25 9B2F 9B32 9B3C 9B5A 9CE5 9E75 9E7F 9EA5 9EBB 9EC3 9ECD 9ED1 9EF9",
  "2FCC:9EFD 9F0E 9F13 9F20 9F3B 9F4A 9F52 9F8D 9F9C 9FA0;3000:20;3036:3012;3038:5341 5344 5345",
  "304C:304B+3099;304E:304D+3099;3050:304F+3099;3052:3051+3099;3054:3053+3099;3056:3055+3099",
  "3058:3057+3099;305A:3059+3099;305C:305B+3099;305E:305D+3099;3060:305F+3099;3062:3061+3099",
  "3065:3064+3099;3067:3066+3099;3069:3068+3099;3070:306F+3099 306F+309A;3073:3072+3099 3072+309A",
  "3076:3075+3099 3075+309A;3079:3078+3099 3078+309A;307C:307B+3099 307B+309A;3094:3046+3099",
  "309B:20+3099 20+309A;309E:309D+3099 3088+308A;30AC:30AB+3099;30AE:30AD+3099;30B0:30AF+3099",
  "30B2:30B1+3099;30B4:30B3+3099;30B6:30B5+3099;30B8:30B7+3099;30BA:30B9+3099;30BC:30BB+3099",
  "30BE:30BD+3099;30C0:30BF+3099;30C2:30C1+3099;30C5:30C4+3099;30C7:30C6+3099;30C9:30C8+3099",
  "30D0:30CF+3099 30CF+309A;30D3:30D2+3099 30D2+309A;30D6:30D5+3099 30D5+309A",
  "30D9:30D8+3099 30D8+309A;30DC:30DB+3099 30DB+309A;30F4:30A6+3099",
  "30F7:30EF+3099 30F0+3099 30F1+3099 30F2+3099;30FE:30FD+3099 30B3+30C8",
  "3131:1100 1101 11AA 1102 11AC 11AD 1103 1104 1105 11B0 11B1 11B2 11B3 11B4 11B5 111A 1106",
  "3142:1107 1108 1121 1109 110A 110B 110C 110D 110E 110F 1110 1111 1112 1161 1162 1163 1164",
  "3153:1165 1166 1167 1168 1169 116A 116B 116C 116D 116E 116F 1170 1171 1172 1173 1174 1175",
  "3164:1160 1114 1115 11C7 11C8 11CC 11CE 11D3 11D7 11D9 111C 11DD 11DF 111D 111E 1120 1122",
  "3175:1123 1127 1129 112B 112C 112D 112E 112F 1132 1136 1140 1147 114C 11F1 11F2 1157 1158",
  "3186:1159 1184 1185 1188 1191 1192 1194 119E 11A1",
  "3192:4E00 4E8C 4E09 56DB 4E0A 4E2D 4E0B 7532 4E59 4E19 4E01 5929 5730 4EBA",
  "3200:28+1100+29 28+1102+29 28+1103+29 28+1105+29 28+1106+29 28+1107+29 28+1109+29 28+110B+29",
  "3208:28+110C+29 28+110E+29 28+110F+29 28+1110+29 28+1111+29 28+1112+29 28+1100+1161+29",
  "320F:28+1102+1161+29 28+1103+1161+29 28+1105+1161+29 28+1106+1161+29 28+1107+1161+29",
  "3214:28+1109+1161+29 28+110B+1161+29 28+110C+1161+29 28+110E+1161+29 28+110F+1161+29",
  "3219:28+1110+1161+29 28+1111+1161+29 28+1112+1161+29 28+110C+116E+29",
  "321D:28+110B+1169+110C+1165+11AB+29 28+110B+1169+1112+116E+29",
  "3220:28+4E00+29 28+4E8C+29 28+4E09+29 28+56DB+29 28+4E94+29 28+516D+29 28+4E03+29 28+516B+29",
  "3228:28+4E5D+29 28+5341+29 28+6708+29 28+706B+29 28+6C34+29 28+6728+29 28+91D1+29 28+571F+29",
  "3230:28+65E5+29 28+682A+29 28+6709+29 28+793E+29 28+540D+29 28+7279+29 28+8CA1+29 28+795D+29",
  "3238:28+52B4+29 28+4EE3+29 28+547C+29 28+5B66+29 28+76E3+29 28+4F01+29 28+8CC7+29 28+5354+29",
  "3240:28+796D+29 28+4F11+29 28+81EA+29 28+81F3+29 554F 5E7C 6587 7B8F",
  "3250:50+54+45 32+31 32+32 32+33 32+34 32+35 32+36 32+37 32+38 32+39 33+30 33+31 33+32 33+33",
  "325E:33+34 33+35 1100 1102 1103 1105 1106 1107 1109 110B 110C 110E 110F 1110 1111 1112",
  "326E:1100+1161 1102+1161 1103+1161 1105+1161 1106+1161 1107+1161 1109+1161 110B+1161",
  "3276:110C+1161 110E+1161 110F+1161 1110+1161 1111+1161 1112+1161 110E+1161+11B7+1100+1169",
  "327D:110C+116E+110B+1174 110B+116E",
  "3280:4E00 4E8C 4E09 56DB 4E94 516D 4E03 516B 4E5D 5341 6708 706B 6C34 6728 91D1 571F 65E5",
  "3291:682A 6709 793E 540D 7279 8CA1 795D 52B4 79D8 7537 5973 9069 512A 5370 6CE8 9805 4F11",
  "32A2:5199 6B63 4E0A 4E2D 4E0B 5DE6 53F3 533B 5B97 5B66 76E3 4F01 8CC7 5354 591C 33+36 33+37",
  "32B3:33+38 33+39 34+30 34+31 34+32 34+33 34+34 34+35 34+36 34+37 34+38 34+39 35+30 31+6708",
  "32C1:32+6708 33+6708 34+6708 35+6708 36+6708 37+6708 38+6708 39+6708 31+30+6708 31+31+6708",
  "32CB:31+32+6708 48+67 65+72+67 65+56 4C+54+44 30A2 30A4 30A6 30A8 30AA 30AB 30AD 30AF 30B1",
  "32D9:30B3 30B5 30B7 30B9 30BB 30BD 30BF 30C1 30C4 30C6 30C8 30CA 30CB 30CC 30CD 30CE 30CF",
  "32EA:30D2 30D5 30D8 30DB 30DE 30DF 30E0 30E1 30E2 30E4 30E6 30E8 30E9 30EA 30EB 30EC 30ED",
  "32FB:30EF 30F0 30F1 30F2 4EE4+548C 30A2+30CF+309A+30FC+30C8 30A2+30EB+30D5+30A1",
  "3302:30A2+30F3+30D8+309A+30A2 30A2+30FC+30EB 30A4+30CB+30F3+30AF+3099 30A4+30F3+30C1",
  "3306:30A6+30A9+30F3 30A8+30B9+30AF+30FC+30C8+3099 30A8+30FC+30AB+30FC 30AA+30F3+30B9",
  "330A:30AA+30FC+30E0 30AB+30A4+30EA 30AB+30E9+30C3+30C8 30AB+30ED+30EA+30FC",
  "330E:30AB+3099+30ED+30F3 30AB+3099+30F3+30DE 30AD+3099+30AB+3099 30AD+3099+30CB+30FC",
  "3312:30AD+30E5+30EA+30FC 30AD+3099+30EB+30BF+3099+30FC 30AD+30ED",
  "3315:30AD+30ED+30AF+3099+30E9+30E0 30AD+30ED+30E1+30FC+30C8+30EB 30AD+30ED+30EF+30C3+30C8",
  "3318:30AF+3099+30E9+30E0 30AF+3099+30E9+30E0+30C8+30F3 30AF+30EB+30BB+3099+30A4+30ED",
  "331B:30AF+30ED+30FC+30CD 30B1+30FC+30B9 30B3+30EB+30CA 30B3+30FC+30DB+309A",
  "331F:30B5+30A4+30AF+30EB 30B5+30F3+30C1+30FC+30E0 30B7+30EA+30F3+30AF+3099 30BB+30F3+30C1",
  "3323:30BB+30F3+30C8 30BF+3099+30FC+30B9 30C6+3099+30B7 30C8+3099+30EB 30C8+30F3 30CA+30CE",
  "3329:30CE+30C3+30C8 30CF+30A4+30C4 30CF+309A+30FC+30BB+30F3+30C8 30CF+309A+30FC+30C4",
  "332D:30CF+3099+30FC+30EC+30EB 30D2+309A+30A2+30B9+30C8+30EB 30D2+309A+30AF+30EB",
  "3330:30D2+309A+30B3 30D2+3099+30EB 30D5+30A1+30E9+30C3+30C8+3099 30D5+30A3+30FC+30C8",
  "3334:30D5+3099+30C3+30B7+30A7+30EB 30D5+30E9+30F3 30D8+30AF+30BF+30FC+30EB 30D8+309A+30BD",
  "3338:30D8+309A+30CB+30D2 30D8+30EB+30C4 30D8+309A+30F3+30B9 30D8+309A+30FC+30B7+3099",
  "333C:30D8+3099+30FC+30BF 30DB+309A+30A4+30F3+30C8 30DB+3099+30EB+30C8 30DB+30F3",
  "3340:30DB+309A+30F3+30C8+3099 30DB+30FC+30EB 30DB+30FC+30F3 30DE+30A4+30AF+30ED",
  "3344:30DE+30A4+30EB 30DE+30C3+30CF 30DE+30EB+30AF 30DE+30F3+30B7+30E7+30F3",
  "3348:30DF+30AF+30ED+30F3 30DF+30EA 30DF+30EA+30CF+3099+30FC+30EB 30E1+30AB+3099",
  "334C:30E1+30AB+3099+30C8+30F3 30E1+30FC+30C8+30EB 30E4+30FC+30C8+3099 30E4+30FC+30EB",
  "3350:30E6+30A2+30F3 30EA+30C3+30C8+30EB 30EA+30E9 30EB+30D2+309A+30FC",
  "3354:30EB+30FC+30D5+3099+30EB 30EC+30E0 30EC+30F3+30C8+30B1+3099+30F3 30EF+30C3+30C8 30+70B9",
  "3359:31+70B9 32+70B9 33+70B9 34+70B9 35+70B9 36+70B9 37+70B9 38+70B9 39+70B9 31+30+70B9",
  "3363:31+31+70B9 31+32+70B9 31+33+70B9 31+34+70B9 31+35+70B9 31+36+70B9 31+37+70B9 31+38+70B9",
  "336B:31+39+70B9 32+30+70B9 32+31+70B9 32+32+70B9 32+33+70B9 32+34+70B9 68+50+61 64+61 41+55",
  "3374:62+61+72 6F+56 70+63 64+6D 64+6D+32 64+6D+33 49+55 5E73+6210 662D+548C 5927+6B63",
  "337E:660E+6CBB 682A+5F0F+4F1A+793E 70+41 6E+41 3BC+41 6D+41 6B+41 4B+42 4D+42 47+42 63+61+6C",
  "3389:6B+63+61+6C 70+46 6E+46 3BC+46 3BC+67 6D+67 6B+67 48+7A 6B+48+7A 4D+48+7A 47+48+7A",
  "3394:54+48+7A 3BC+6C 6D+6C 64+6C 6B+6C 66+6D 6E+6D 3BC+6D 6D+6D 63+6D 6B+6D 6D+6D+32",
  "33A0:63+6D+32 6D+32 6B+6D+32 6D+6D+33 63+6D+33 6D+33 6B+6D+33 6D+2215+73 6D+2215+73+32 50+61",
  "33AA:6B+50+61 4D+50+61 47+50+61 72+61+64 72+61+64+2215+73 72+61+64+2215+73+32 70+73 6E+73",
  "33B2:3BC+73 6D+73 70+56 6E+56 3BC+56 6D+56 6B+56 4D+56 70+57 6E+57 3BC+57 6D+57 6B+57 4D+57",
  "33C0:6B+3A9 4D+3A9 61+2E+6D+2E 42+71 63+63 63+64 43+2215+6B+67 43+6F+2E 64+42 47+79 68+61",
  "33CB:48+50 69+6E 4B+4B 4B+4D 6B+74 6C+6D 6C+6E 6C+6F+67 6C+78 6D+62 6D+69+6C 6D+6F+6C 50+48",
  "33D8:70+2E+6D+2E 50+50+4D 50+52 73+72 53+76 57+62 56+2215+6D 41+2215+6D 31+65E5 32+65E5",
  "33E2:33+65E5 34+65E5 35+65E5 36+65E5 37+65E5 38+65E5 39+65E5 31+30+65E5 31+31+65E5",
  "33EB:31+32+65E5 31+33+65E5 31+34+65E5 31+35+65E5 31+36+65E5 31+37+65E5 31+38+65E5 31+39+65E5",
  "33F3:32+30+65E5 32+31+65E5 32+32+65E5 32+33+65E5 32+34+65E5 32+35+65E5 32+36+65E5 32+37+65E5",
  "33FB:32+38+65E5 32+39+65E5 33+30+65E5 33+31+65E5 67+61+6C;A69C:44A 44C;A770:A76F;A7F2:43 46 51",
  "A7F8:126 153;AB5C:A727 AB37 26B AB52;AB69:28D",
  "F900:8C48 66F4 8ECA 8CC8 6ED1 4E32 53E5 9F9C 9F9C 5951 91D1 5587 5948 61F6 7669 7F85 863F",
  "F911:87BA 88F8 908F 6A02 6D1B 70D9 73DE 843D 916A 99F1 4E82 5375 6B04 721B 862D 9E1E 5D50",
  "F922:6FEB 85CD 8964 62C9 81D8 881F 5ECA 6717 6D6A 72FC 90CE 4F86 51B7 52DE 64C4 6AD3 7210",
  "F933:76E7 8001 8606 865C 8DEF 9732 9B6F 9DFA 788C 797F 7DA0 83C9 9304 9E7F 8AD6 58DF 5F04",
  "F944:7C60 807E 7262 78CA 8CC2 96F7 58D8 5C62 6A13 6DDA 6F0F 7D2F 7E37 964B 52D2 808B 51DC",
  "F955:51CC 7A1C 7DBE 83F1 9675 8B80 62CF 6A02 8AFE 4E39 5BE7 6012 7387 7570 5317 78FB 4FBF",
  "F966:5FA9 4E0D 6CCC 6578 7D22 53C3 585E 7701 8449 8AAA 6BBA 8FB0 6C88 62FE 82E5 63A0 7565",
  "F977:4EAE 5169 51C9 6881 7CE7 826F 8AD2 91CF 52F5 5442 5973 5EEC 65C5 6FFE 792A 95AD 9A6A",
  "F988:9E97 9ECE 529B 66C6 6B77 8F62 5E74 6190 6200 649A 6F23 7149 7489 79CA 7DF4 806F 8F26",
  "F999:84EE 9023 934A 5217 52A3 54BD 70C8 88C2 8AAA 5EC9 5FF5 637B 6BAE 7C3E 7375 4EE4 56F9",
  "F9AA:5BE7 5DBA 601C 73B2 7469 7F9A 8046 9234 96F6 9748 9818 4F8B 79AE 91B4 96B8 60E1 4E86",
  "F9BB:50DA 5BEE 5C3F 6599 6A02 71CE 7642 84FC 907C 9F8D 6688 962E 5289 677B 67F3 6D41 6E9C",
  "F9CC:7409 7559 786B 7D10 985E 516D 622E 9678 502B 5D19 6DEA 8F2A 5F8B 6144 6817 7387 9686",
  "F9DD:5229 540F 5C65 6613 674E 68A8 6CE5 7406 75E2 7F79 88CF 88E1 91CC 96E2 533F 6EBA 541D",
  "F9EE:71D0 7498 85FA 96A3 9C57 9E9F 6797 6DCB 81E8 7ACB 7B20 7C92 72C0 7099 8B58 4EC0 8336",
  "F9FF:523A 5207 5EA6 62D3 7CD6 5B85 6D1E 66B4 8F3B 884C 964D 898B 5ED3 5140 55C0;FA10:585A",
  "FA12:6674;FA15:51DE 732A 76CA 793C 795E 7965 798F 9756 7CBE 7FBD;FA20:8612;FA22:8AF8",
  "FA25:9038 90FD",
  "FA2A:98EF 98FC 9928 9DB4 90DE 96B7 4FAE 50E7 514D 52C9 52E4 5351 559D 5606 5668 5840 58A8",
  "FA3B:5C64 5C6E 6094 6168 618E 61F2 654F 65E2 6691 6885 6D77 6E1A 6F22 716E 722B 7422 7891",
  "FA4C:793E 7949 7948 7950 7956 795D 798D 798E 7A40 7A81 7BC0 7DF4 7E09 7E41 7F72 8005 81ED",
  "FA5D:8279 8279 8457 8910 8996 8B01 8B39 8CD3 8D08 8FB6 9038 96E3 97FF 983B 6075 242EE 8218",
  "FA70:4E26 51B5 5168 4F80 5145 5180 52C7 52FA 559D 5555 5599 55E2 585A 58B3 5944 5954 5A62",
  "FA81:5B28 5ED2 5ED9 5F69 5FAD 60D8 614E 6108 618E 6160 61F2 6234 63C4 641C 6452 6556 6674",
  "FA92:6717 671B 6756 6B79 6BBA 6D41 6EDB 6ECB 6F22 701E 716E 77A7 7235 72AF 732A 7471 7506",
  "FAA3:753B 761D 761F 76CA 76DB 76F4 774A 7740 78CC 7AB1 7BC0 7C7B 7D5B 7DF4 7F3E 8005 8352",
  "FAB4:83EF 8779 8941 8986 8996 8ABF 8AF8 8ACB 8B01 8AFE 8AED 8B39 8B8A 8D08 8F38 9072 9199",
  "FAC5:9276 967C 96E3 9756 97DB 97FF 980B 983B 9B12 9F9C 2284A 22844 233D5 3B9D 4018 4039",
  "FAD5:25249 25CD0 27ED3 9F43 9F8E;FB00:66+66 66+69 66+6C 66+66+69 66+66+6C 73+74 73+74",
  "FB13:574+576 574+565 574+56B 57E+576 574+56D;FB1D:5D9+5B4",
  "FB1F:5F2+5B7 5E2 5D0 5D3 5D4 5DB 5DC 5DD 5E8 5EA 2B 5E9+5C1 5E9+5C2 5E9+5BC+5C1 5E9+5BC+5C2",
  "FB2E:5D0+5B7 5D0+5B8 5D0+5BC 5D1+5BC 5D2+5BC 5D3+5BC 5D4+5BC 5D5+5BC 5D6+5BC",
  "FB38:5D8+5BC 5D9+5BC 5DA+5BC 5DB+5BC 5DC+5BC;FB3E:5DE+5BC;FB40:5E0+5BC 5E1+5BC",
  "FB43:5E3+5BC 5E4+5BC",
  "FB46:5E6+5BC 5E7+5BC 5E8+5BC 5E9+5BC 5EA+5BC 5D5+5B9 5D1+5BF 5DB+5BF 5E4+5BF 5D0+5DC 671 671",
  "FB52:67B 67B 67B 67B 67E 67E 67E 67E 680 680 680 680 67A 67A 67A 67A 67F 67F 67F 67F 679 679",
  "FB68:679 679 6A4 6A4 6A4 6A4 6A6 6A6 6A6 6A6 684 684 684 684 683 683 683 683 686 686 686 686",
  "FB7E:687 687 687 687 68D 68D 68C 68C 68E 68E 688 688 698 698 691 691 6A9 6A9 6A9 6A9 6AF 6AF",
  "FB94:6AF 6AF 6B3 6B3 6B3 6B3 6B1 6B1 6B1 6B1 6BA 6BA 6BB 6BB 6BB 6BB 6D5+654 6D5+654 6C1 6C1",
  "FBA8:6C1 6C1 6BE 6BE 6BE 6BE 6D2 6D2 6D2+654 6D2+654",
  "FBD3:6AD 6AD 6AD 6AD 6C7 6C7 6C6 6C6 6C8 6C8 6C7+674 6CB 6CB 6C5 6C5 6C9 6C9 6D0 6D0 6D0 6D0",
  "FBE8:649 649 64A+654+627 64A+654+627 64A+654+6D5 64A+654+6D5 64A+654+648 64A+654+648",
  "FBF0:64A+654+6C7 64A+654+6C7 64A+654+6C6 64A+654+6C6 64A+654+6C8 64A+654+6C8 64A+654+6D0",
  "FBF7:64A+654+6D0 64A+654+6D0 64A+654+649 64A+654+649 64A+654+649 6CC 6CC 6CC 6CC 64A+654+62C",
  "FC01:64A+654+62D 64A+654+645 64A+654+649 64A+654+64A 628+62C 628+62D 628+62E 628+645 628+649",
  "FC0A:628+64A 62A+62C 62A+62D 62A+62E 62A+645 62A+649 62A+64A 62B+62C 62B+645 62B+649 62B+64A",
  "FC15:62C+62D 62C+645 62D+62C 62D+645 62E+62C 62E+62D 62E+645 633+62C 633+62D 633+62E 633+645",
  "FC20:635+62D 635+645 636+62C 636+62D 636+62E 636+645 637+62D 637+645 638+645 639+62C 639+645",
  "FC2B:63A+62C 63A+645 641+62C 641+62D 641+62E 641+645 641+649 641+64A 642+62D 642+645 642+649",
  "FC36:642+64A 643+627 643+62C 643+62D 643+62E 643+644 643+645 643+649 643+64A 644+62C 644+62D",
  "FC41:644+62E 644+645 644+649 644+64A 645+62C 645+62D 645+62E 645+645 645+649 645+64A 646+62C",
  "FC4C:646+62D 646+62E 646+645 646+649 646+64A 647+62C 647+645 647+649 647+64A 64A+62C 64A+62D",
  "FC57:64A+62E 64A+645 64A+649 64A+64A 630+670 631+670 649+670 20+64C+651 20+64D+651",
  "FC60:20+64E+651 20+64F+651 20+650+651 20+651+670 64A+654+631 64A+654+632 64A+654+645",
  "FC67:64A+654+646 64A+654+649 64A+654+64A 628+631 628+632 628+645 628+646 628+649 628+64A",
  "FC70:62A+631 62A+632 62A+645 62A+646 62A+649 62A+64A 62B+631 62B+632 62B+645 62B+646 62B+649",
  "FC7B:62B+64A 641+649 641+64A 642+649 642+64A 643+627 643+644 643+645 643+649 643+64A 644+645",
  "FC86:644+649 644+64A 645+627 645+645 646+631 646+632 646+645 646+646 646+649 646+64A 649+670",
  "FC91:64A+631 64A+632 64A+645 64A+646 64A+649 64A+64A 64A+654+62C 64A+654+62D 64A+654+62E",
  "FC9A:64A+654+645 64A+654+647 628+62C 628+62D 628+62E 628+645 628+647 62A+62C 62A+62D 62A+62E",
  "FCA4:62A+645 62A+647 62B+645 62C+62D 62C+645 62D+62C 62D+645 62E+62C 62E+645 633+62C 633+62D",
  "FCAF:633+62E 633+645 635+62D 635+62E 635+645 636+62C 636+62D 636+62E 636+645 637+62D 638+645",
  "FCBA:639+62C 639+645 63A+62C 63A+645 641+62C 641+62D 641+62E 641+645 642+62D 642+645 643+62C",
  "FCC5:643+62D 643+62E 643+644 643+645 644+62C 644+62D 644+62E 644+645 644+647 645+62C 645+62D",
  "FCD0:645+62E 645+645 646+62C 646+62D 646+62E 646+645 646+647 647+62C 647+645 647+670 64A+62C",
  "FCDB:64A+62D 64A+62E 64A+645 64A+647 64A+654+645 64A+654+647 628+645 628+647 62A+645 62A+647",
  "FCE5:62B+645 62B+647 633+645 633+647 634+645 634+647 643+644 643+645 644+645 646+645 646+647",
  "FCF0:64A+645 64A+647 640+64E+651 640+64F+651 640+650+651 637+649 637+64A 639+649 639+64A",
  "FCF9:63A+649 63A+64A 633+649 633+64A 634+649 634+64A 62D+649 62D+64A 62C+649 62C+64A 62E+649",
  "FD04:62E+64A 635+649 635+64A 636+649 636+64A 634+62C 634+62D 634+62E 634+645 634+631 633+631",
  "FD0F:635+631 636+631 637+649 637+64A 639+649 639+64A 63A+649 63A+64A 633+649 633+64A 634+649",
  "FD1A:634+64A 62D+649 62D+64A 62C+649 62C+64A 62E+649 62E+64A 635+649 635+64A 636+649 636+64A",
  "FD25:634+62C 634+62D 634+62E 634+645 634+631 633+631 635+631 636+631 634+62C 634+62D 634+62E",
  "FD30:634+645 633+647 634+647 637+645 633+62C 633+62D 633+62E 634+62C 634+62D 634+62E 637+645",
  "FD3B:638+645 627+64B 627+64B",
  "FD50:62A+62C+645 62A+62D+62C 62A+62D+62C 62A+62D+645 62A+62E+645 62A+645+62C 62A+645+62D",
  "FD57:62A+645+62E 62C+645+62D 62C+645+62D 62D+645+64A 62D+645+649 633+62D+62C 633+62C+62D",
  "FD5E:633+62C+649 633+645+62D 633+645+62D 633+645+62C 633+645+645 633+645+645 635+62D+62D",
  "FD65:635+62D+62D 635+645+645 634+62D+645 634+62D+645 634+62C+64A 634+645+62E 634+645+62E",
  "FD6C:634+645+645 634+645+645 636+62D+649 636+62E+645 636+62E+645 637+645+62D 637+645+62D",
  "FD73:637+645+645 637+645+64A 639+62C+645 639+645+645 639+645+645 639+645+649 63A+645+645",
  "FD7A:63A+645+64A 63A+645+649 641+62E+645 641+62E+645 642+645+62D 642+645+645 644+62D+645",
  "FD81:644+62D+64A 644+62D+649 644+62C+62C 644+62C+62C 644+62E+645 644+62E+645 644+645+62D",
  "FD88:644+645+62D 645+62D+62C 645+62D+645 645+62D+64A 645+62C+62D 645+62C+645 645+62E+62C",
  "FD8F:645+62E+645",
  "FD92:645+62C+62E 647+645+62C 647+645+645 646+62D+645 646+62D+649 646+62C+645 646+62C+645",
  "FD99:646+62C+649 646+645+64A 646+645+649 64A+645+645 64A+645+645 628+62E+64A 62A+62C+64A",
  "FDA0:62A+62C+649 62A+62E+64A 62A+62E+649 62A+645+64A 62A+645+649 62C+645+64A 62C+62D+649",
  "FDA7:62C+645+649 633+62E+649 635+62D+64A 634+62D+64A 636+62D+64A 644+62C+64A 644+645+64A",
  "FDAE:64A+62D+64A 64A+62C+64A 64A+645+64A 645+645+64A 642+645+64A 646+62D+64A 642+645+62D",
  "FDB5:644+62D+645 639+645+64A 643+645+64A 646+62C+62D 645+62E+64A 644+62C+645 643+645+645",
  "FDBC:644+62C+645 646+62C+62D 62C+62D+64A 62D+62C+64A 645+62C+64A 641+645+64A 628+62D+64A",
  "FDC3:643+645+645 639+62C+645 635+645+645 633+62E+64A 646+62C+64A",
  "FDF0:635+644+6D2 642+644+6D2 627+644+644+647 627+643+628+631 645+62D+645+62F 635+644+639+645",
  "FDF6:631+633+648+644 639+644+64A+647 648+633+644+645 635+644+649",
  "FDFA:635+644+649+20+627+644+644+647+20+639+644+64A+647+20+648+633+644+645",
  "FDFB:62C+644+20+62C+644+627+644+647 631+6CC+627+644",
  "FE10:2C 3001 3002 3A 3B 21 3F 3016 3017 2E+2E+2E",
  "FE30:2E+2E 2014 2013 5F 5F 28 29 7B 7D 3014 3015 3010 3011 300A 300B 3008 3009 300C 300D",
  "FE43:300E 300F;FE47:5B 5D 20+305 20+305 20+305 20+305 5F 5F 5F 2C 3001 2E",
  "FE54:3B 3A 3F 21 2014 28 29 7B 7D 3014 3015 23 26 2A 2B 2D 3C 3E 3D;FE68:5C 24 25 40",
  "FE70:20+64B 640+64B 20+64C;FE74:20+64D",
  "FE76:20+64E 640+64E 20+64F 640+64F 20+650 640+650 20+651 640+651 20+652 640+652 621 627+653",
  "FE82:627+653 627+654 627+654 648+654 648+654 627+655 627+655 64A+654 64A+654 64A+654 64A+654",
  "FE8D:627 627 628 628 628 628 629 629 62A 62A 62A 62A 62B 62B 62B 62B 62C 62C 62C 62C 62D 62D",
  "FEA3:62D 62D 62E 62E 62E 62E 62F 62F 630 630 631 631 632 632 633 633 633 633 634 634 634 634",
  "FEB9:635 635 635 635 636 636 636 636 637 637 637 637 638 638 638 638 639 639 639 639 63A 63A",
  "FECF:63A 63A 641 641 641 641 642 642 642 642 643 643 643 643 644 644 644 644 645 645 645 645",
  "FEE5:646 646 646 646 647 647 647 647 648 648 649 649 64A 64A 64A 64A 644+627+653 644+627+653",
  "FEF7:644+627+654 644+627+654 644+627+655 644+627+655 644+627 644+627",
  "FF01:21 22 23 24 25 26 27 28 29 2A 2B 2C 2D 2E 2F 30 31 32 33 34 35 36 37 38 39 3A 3B 3C 3D",
  "FF1E:3E 3F 40 41 42 43 44 45 46 47 48 49 4A 4B 4C 4D 4E 4F 50 51 52 53 54 55 56 57 58 59 5A",
  "FF3B:5B 5C 5D 5E 5F 60 61 62 63 64 65 66 67 68 69 6A 6B 6C 6D 6E 6F 70 71 72 73 74 75 76 77",
  "FF58:78 79 7A 7B 7C 7D 7E 2985 2986 3002 300C 300D 3001 30FB 30F2 30A1 30A3 30A5 30A7 30A9",
  "FF6C:30E3 30E5 30E7 30C3 30FC 30A2 30A4 30A6 30A8 30AA 30AB 30AD 30AF 30B1 30B3 30B5 30B7",
  "FF7D:30B9 30BB 30BD 30BF 30C1 30C4 30C6 30C8 30CA 30CB 30CC 30CD 30CE 30CF 30D2 30D5 30D8",
  "FF8E:30DB 30DE 30DF 30E0 30E1 30E2 30E4 30E6 30E8 30E9 30EA 30EB 30EC 30ED 30EF 30F3 3099",
  "FF9F:309A 1160 1100 1101 11AA 1102 11AC 11AD 1103 1104 1105 11B0 11B1 11B2 11B3 11B4 11B5",
  "FFB0:111A 1106 1107 1108 1121 1109 110A 110B 110C 110D 110E 110F 1110 1111 1112",
  "FFC2:1161 1162 1163 1164 1165 1166;FFCA:1167 1168 1169 116A 116B 116C",
  "FFD2:116D 116E 116F 1170 1171 1172;FFDA:1173 1174 1175;FFE0:A2 A3 AC 20+304 A6 A5 20A9",
  "FFE8:2502 2190 2191 2192 2193 25A0 25CB;10781:2D0 2D1 E6 299 253",
  "10787:2A3 AB66 2A5 2A4 256 257 1D91 258 25E 2A9 264 262 260 29B 127 29C 267 284 2AA 2AB 26C",
  "1079C:1DF04 A78E 26E 1DF05 28E 1DF06 F8 276 277 71 27A 1DF08 27D 27E 280 2A8 2A6 AB67 2A7",
  "107AF:288 2C71;107B2:28F 2A1 2A2 298 1C0 1C1 1C2 1DF0A 1DF1E;1109A:11099+110BA",
  "1109C:1109B+110BA;110AB:110A5+110BA;1112E:11131+11127 11132+11127",
  "1134B:11347+1133E 11347+11357;114BB:114B9+114BA 114B9+114B0;114BE:114B9+114BD",
  "115BA:115B8+115AF 115B9+115AF;11938:11935+11930",
  "1D15E:1D157+1D165 1D158+1D165 1D158+1D165+1D16E 1D158+1D165+1D16F 1D158+1D165+1D170",
  "1D163:1D158+1D165+1D171 1D158+1D165+1D172",
  "1D1BB:1D1B9+1D165 1D1BA+1D165 1D1B9+1D165+1D16E 1D1BA+1D165+1D16E 1D1B9+1D165+1D16F",
  "1D1C0:1D1BA+1D165+1D16F",
  "1D400:41 42 43 44 45 46 47 48 49 4A 4B 4C 4D 4E 4F 50 51 52 53 54 55 56 57 58 59 5A 61 62 63",
  "1D41D:64 65 66 67 68 69 6A 6B 6C 6D 6E 6F 70 71 72 73 74 75 76 77 78 79 7A 41 42 43 44 45 46",
  "1D43A:47 48 49 4A 4B 4C 4D 4E 4F 50 51 52 53 54 55 56 57 58 59 5A 61 62 63 64 65 66 67",
  "1D456:69 6A 6B 6C 6D 6E 6F 70 71 72 73 74 75 76 77 78 79 7A 41 42 43 44 45 46 47 48 49 4A 4B",
  "1D473:4C 4D 4E 4F 50 51 52 53 54 55 56 57 58 59 5A 61 62 63 64 65 66 67 68 69 6A 6B 6C 6D 6E",
  "1D490:6F 70 71 72 73 74 75 76 77 78 79 7A 41;1D49E:43 44;1D4A2:47;1D4A5:4A 4B",
  "1D4A9:4E 4F 50 51;1D4AE:53 54 55 56 57 58 59 5A 61 62 63 64;1D4BB:66",
  "1D4BD:68 69 6A 6B 6C 6D 6E",
  "1D4C5:70 71 72 73 74 75 76 77 78 79 7A 41 42 43 44 45 46 47 48 49 4A 4B 4C 4D 4E 4F 50 51 52",
  "1D4E2:53 54 55 56 57 58 59 5A 61 62 63 64 65 66 67 68 69 6A 6B 6C 6D 6E 6F 70 71 72 73 74 75",
  "1D4FF:76 77 78 79 7A 41 42;1D507:44 45 46 47;1D50D:4A 4B 4C 4D 4E 4F 50 51",
  "1D516:53 54 55 56 57 58 59",
  "1D51E:61 62 63 64 65 66 67 68 69 6A 6B 6C 6D 6E 6F 70 71 72 73 74 75 76 77 78 79 7A 41 42",
  "1D53B:44 45 46 47;1D540:49 4A 4B 4C 4D;1D546:4F;1D54A:53 54 55 56 57 58 59",
  "1D552:61 62 63 64 65 66 67 68 69 6A 6B 6C 6D 6E 6F 70 71 72 73 74 75 76 77 78 79 7A 41 42 43",
  "1D56F:44 45 46 47 48 49 4A 4B 4C 4D 4E 4F 50 51 52 53 54 55 56 57 58 59 5A 61 62 63 64 65 66",
  "1D58C:67 68 69 6A 6B 6C 6D 6E 6F 70 71 72 73 74 75 76 77 78 79 7A 41 42 43 44 45 46 47 48 49",
  "1D5A9:4A 4B 4C 4D 4E 4F 50 51 52 53 54 55 56 57 58 59 5A 61 62 63 64 65 66 67 68 69 6A 6B 6C",
  "1D5C6:6D 6E 6F 70 71 72 73 74 75 76 77 78 79 7A 41 42 43 44 45 46 47 48 49 4A 4B 4C 4D 4E 4F",
  "1D5E3:50 51 52 53 54 55 56 57 58 59 5A 61 62 63 64 65 66 67 68 69 6A 6B 6C 6D 6E 6F 70 71 72",
  "1D600:73 74 75 76 77 78 79 7A 41 42 43 44 45 46 47 48 49 4A 4B 4C 4D 4E 4F 50 51 52 53 54 55",
  "1D61D:56 57 58 59 5A 61 62 63 64 65 66 67 68 69 6A 6B 6C 6D 6E 6F 70 71 72 73 74 75 76 77 78",
  "1D63A:79 7A 41 42 43 44 45 46 47 48 49 4A 4B 4C 4D 4E 4F 50 51 52 53 54 55 56 57 58 59 5A 61",
  "1D657:62 63 64 65 66 67 68 69 6A 6B 6C 6D 6E 6F 70 71 72 73 74 75 76 77 78 79 7A 41 42 43 44",
  "1D674:45 46 47 48 49 4A 4B 4C 4D 4E 4F 50 51 52 53 54 55 56 57 58 59 5A 61 62 63 64 65 66 67",
  "1D691:68 69 6A 6B 6C 6D 6E 6F 70 71 72 73 74 75 76 77 78 79 7A 131 237",
  "1D6A8:391 392 393 394 395 396 397 398 399 39A 39B 39C 39D 39E 39F 3A0 3A1 398 3A3 3A4 3A5",
  "1D6BD:3A6 3A7 3A8 3A9 2207 3B1 3B2 3B3 3B4 3B5 3B6 3B7 3B8 3B9 3BA 3BB 3BC 3BD 3BE 3BF 3C0",
  "1D6D2:3C1 3C2 3C3 3C4 3C5 3C6 3C7 3C8 3C9 2202 3B5 3B8 3BA 3C6 3C1 3C0 391 392 393 394 395",
  "1D6E7:396 397 398 399 39A 39B 39C 39D 39E 39F 3A0 3A1 398 3A3 3A4 3A5 3A6 3A7 3A8 3A9 2207",
  "1D6FC:3B1 3B2 3B3 3B4 3B5 3B6 3B7 3B8 3B9 3BA 3BB 3BC 3BD 3BE 3BF 3C0 3C1 3C2 3C3 3C4 3C5",
  "1D711:3C6 3C7 3C8 3C9 2202 3B5 3B8 3BA 3C6 3C1 3C0 391 392 393 394 395 396 397 398 399 39A",
  "1D726:39B 39C 39D 39E 39F 3A0 3A1 398 3A3 3A4 3A5 3A6 3A7 3A8 3A9 2207 3B1 3B2 3B3 3B4 3B5",
  "1D73B:3B6 3B7 3B8 3B9 3BA 3BB 3BC 3BD 3BE 3BF 3C0 3C1 3C2 3C3 3C4 3C5 3C6 3C7 3C8 3C9 2202",
  "1D750:3B5 3B8 3BA 3C6 3C1 3C0 391 392 393 394 395 396 397 398 399 39A 39B 39C 39D 39E 39F",
  "1D765:3A0 3A1 398 3A3 3A4 3A5 3A6 3A7 3A8 3A9 2207 3B1 3B2 3B3 3B4 3B5 3B6 3B7 3B8 3B9 3BA",
  "1D77A:3BB 3BC 3BD 3BE 3BF 3C0 3C1 3C2 3C3 3C4 3C5 3C6 3C7 3C8 3C9 2202 3B5 3B8 3BA 3C6 3C1",
  "1D78F:3C0 391 392 393 394 395 396 397 398 399 39A 39B 39C 39D 39E 39F 3A0 3A1 398 3A3 3A4",
  "1D7A4:3A5 3A6 3A7 3A8 3A9 2207 3B1 3B2 3B3 3B4 3B5 3B6 3B7 3B8 3B9 3BA 3BB 3BC 3BD 3BE 3BF",
  "1D7B9:3C0 3C1 3C2 3C3 3C4 3C5 3C6 3C7 3C8 3C9 2202 3B5 3B8 3BA 3C6 3C1 3C0 3DC 3DD",
  "1D7CE:30 31 32 33 34 35 36 37 38 39 30 31 32 33 34 35 36 37 38 39 30 31 32 33 34 35 36 37 38",
  "1D7EB:39 30 31 32 33 34 35 36 37 38 39 30 31 32 33 34 35 36 37 38 39;1EE00:627 628 62C 62F",
  "1EE05:648 632 62D 637 64A 643 644 645 646 633 639 641 635 642 631 634 62A 62B 62E 630 636",
  "1EE1A:638 63A 66E 6BA 6A1 66F;1EE21:628 62C;1EE24:647;1EE27:62D",
  "1EE29:64A 643 644 645 646 633 639 641 635 642;1EE34:634 62A 62B 62E;1EE39:636;1EE3B:63A",
  "1EE42:62C;1EE47:62D;1EE49:64A;1EE4B:644;1EE4D:646 633 639;1EE51:635 642;1EE54:634;1EE57:62E",
  "1EE59:636;1EE5B:63A;1EE5D:6BA;1EE5F:66F;1EE61:628 62C;1EE64:647;1EE67:62D 637 64A 643",
  "1EE6C:645 646 633 639 641 635 642;1EE74:634 62A 62B 62E;1EE79:636 638 63A 66E;1EE7E:6A1",
  "1EE80:627 628 62C 62F 647 648 632 62D 637 64A",
  "1EE8B:644 645 646 633 639 641 635 642 631 634 62A 62B 62E 630 636 638 63A;1EEA1:628 62C 62F",
  "1EEA5:648 632 62D 637 64A",
  "1EEAB:644 645 646 633 639 641 635 642 631 634 62A 62B 62E 630 636 638 63A",
  "1F100:30+2E 30+2C 31+2C 32+2C 33+2C 34+2C 35+2C 36+2C 37+2C 38+2C 39+2C",
  "1F110:28+41+29 28+42+29 28+43+29 28+44+29 28+45+29 28+46+29 28+47+29 28+48+29 28+49+29",
  "1F119:28+4A+29 28+4B+29 28+4C+29 28+4D+29 28+4E+29 28+4F+29 28+50+29 28+51+29 28+52+29",
  "1F122:28+53+29 28+54+29 28+55+29 28+56+29 28+57+29 28+58+29 28+59+29 28+5A+29 3014+53+3015",
  "1F12B:43 52 43+44 57+5A",
  "1F130:41 42 43 44 45 46 47 48 49 4A 4B 4C 4D 4E 4F 50 51 52 53 54 55 56 57 58 59 5A 48+56",
  "1F14B:4D+56 53+44 53+53 50+50+56 57+43;1F16A:4D+43 4D+44 4D+52;1F190:44+4A",
  "1F200:307B+304B 30B3+30B3 30B5",
  "1F210:624B 5B57 53CC 30C6+3099 4E8C 591A 89E3 5929 4EA4 6620 7121 6599 524D 5F8C 518D 65B0",
  "1F220:521D 7D42 751F 8CA9 58F0 5439 6F14 6295 6355 4E00 4E09 904A 5DE6 4E2D 53F3 6307 8D70",
  "1F231:6253 7981 7A7A 5408 6E80 6709 6708 7533 5272 55B6 914D",
  "1F240:3014+672C+3015 3014+4E09+3015 3014+4E8C+3015 3014+5B89+3015 3014+70B9+3015",
  "1F245:3014+6253+3015 3014+76D7+3015 3014+52DD+3015 3014+6557+3015;1F250:5F97 53EF",
  "1FBF0:30 31 32 33 34 35 36 37 38 39",
  "2F800:4E3D 4E38 4E41 20122 4F60 4FAE 4FBB 5002 507A 5099 50E7 50CF 349E 2063A 514D 5154 5164",
  "2F811:5177 2051C 34B9 5167 518D 2054B 5197 51A4 4ECC 51AC 51B5 291DF 51F5 5203 34DF 523B",
  "2F821:5246 5272 5277 3515 52C7 52C9 52E4 52FA 5305 5306 5317 5349 5351 535A 5373 537D 537F",
  "2F832:537F 537F 20A2C 7070 53CA 53DF 20B63 53EB 53F1 5406 549E 5438 5448 5468 54A2 54F6 5510",
  "2F843:5553 5563 5584 5584 5599 55AB 55B3 55C2 5716 5606 5717 5651 5674 5207 58EE 57CE 57F4",
  "2F854:580D 578B 5832 5831 58AC 214E4 58F2 58F7 5906 591A 5922 5962 216A8 216EA 59EC 5A1B",
  "2F864:5A27 59D8 5A66 36EE 36FC 5B08 5B3E 5B3E 219C8 5BC3 5BD8 5BE7 5BF3 21B18 5BFF 5C06 5F53",
  "2F875:5C22 3781 5C60 5C6E 5CC0 5C8D 21DE4 5D43 21DE6 5D6E 5D6B 5D7C 5DE1 5DE2 382F 5DFD 5E28",
  "2F886:5E3D 5E69 3862 22183 387C 5EB0 5EB3 5EB6 5ECA 2A392 5EFE 22331 22331 8201 5F22 5F22",
  "2F896:38C7 232B8 261DA 5F62 5F6B 38E3 5F9A 5FCD 5FD7 5FF9 6081 393A 391C 6094 226D4 60C7",
  "2F8A6:6148 614C 614E 614C 617A 618E 61B2 61A4 61AF 61DE 61F2 61F6 6210 621B 625D 62B1 62D4",
  "2F8B7:6350 22B0C 633D 62FC 6368 6383 63E4 22BF1 6422 63C5 63A9 3A2E 6469 647E 649D 6477 3A6C",
  "2F8C8:654F 656C 2300A 65E3 66F8 6649 3B19 6691 3B08 3AE4 5192 5195 6700 669C 80AD 43D9 6717",
  "2F8D9:671B 6721 675E 6753 233C3 3B49 67FA 6785 6852 6885 2346D 688E 681F 6914 3B9D 6942 69A3",
  "2F8EA:69EA 6AA8 236A3 6ADB 3C18 6B21 238A7 6B54 3C4E 6B72 6B9F 6BBA 6BBB 23A8D 21D0B 23AFA",
  "2F8FA:6C4E 23CBC 6CBF 6CCD 6C67 6D16 6D3E 6D77 6D41 6D69 6D78 6D85 23D1E 6D34 6E2F 6E6E 3D33",
  "2F90B:6ECB 6EC7 23ED1 6DF9 6F6E 23F5E 23F8E 6FC6 7039 701E 701B 3D96 704A 707D 7077 70AD",
  "2F91B:20525 7145 24263 719C 243AB 7228 7235 7250 24608 7280 7295 24735 24814 737A 738B 3EAC",
  "2F92B:73A5 3EB8 3EB8 7447 745C 7471 7485 74CA 3F1B 7524 24C36 753E 24C92 7570 2219F 7610",
  "2F93B:24FA1 24FB8 25044 3FFC 4008 76F4 250F3 250F2 25119 25133 771E 771F 771F 774A 4039 778B",
  "2F94B:4046 4096 2541D 784E 788C 78CC 40E3 25626 7956 2569A 256C5 798F 79EB 412F 7A40 7A4A",
  "2F95B:7A4F 2597C 25AA7 25AA7 7AEE 4202 25BAB 7BC6 7BC9 4227 25C80 7CD2 42A0 7CE8 7CE3 7D00",
  "2F96B:25F86 7D63 4301 7DC7 7E02 7E45 4334 26228 26247 4359 262D9 7F7A 2633E 7F95 7FFA 8005",
  "2F97B:264DA 26523 8060 265A8 8070 2335F 43D5 80B2 8103 440B 813E 5AB5 267A7 267B5 23393",
  "2F98A:2339C 8201 8204 8F9E 446B 8291 828B 829D 52B3 82B1 82B3 82BD 82E6 26B3C 82E5 831D 8363",
  "2F99B:83AD 8323 83BD 83E7 8457 8353 83CA 83CC 83DC 26C36 26D6B 26CD5 452B 84F1 84F3 8516",
  "2F9AB:273CA 8564 26F2C 455D 4561 26FB1 270D2 456B 8650 865C 8667 8669 86A9 8688 870E 86E2",
  "2F9BB:8779 8728 876B 8786 45D7 87E1 8801 45F9 8860 8863 27667 88D7 88DE 4635 88FA 34BB 278AE",
  "2F9CC:27966 46BE 46C7 8AA0 8AED 8B8A 8C55 27CA8 8CAB 8CC1 8D1B 8D77 27F2F 20804 8DCB 8DBC",
  "2F9DC:8DF0 208DE 8ED4 8F38 285D2 285ED 9094 90F1 9111 2872E 911B 9238 92D7 92D8 927C 93F9",
  "2F9EC:9415 28BFA 958B 4995 95B7 28D77 49E6 96C3 5DB2 9723 29145 2921A 4A6E 4A76 97E0 2940A",
  "2F9FC:4AB2 29496 980B 980B 9829 295B6 98E2 4B33 9929 99A7 99C2 99FE 4BCE 29B30 9B12 9C40",
  "2FA0C:9CFD 4CCE 4CED 9D67 2A0CE 4CF8 2A105 2A20E 2A291 9EBB 4D56 9EF9 9EFE 9F05 9F0F 9F16",
  "2FA1C:9F3B 2A600"]

/-- By second character, each first character with the composition of the two. -/
def compositionText : List String := [
  "300:41+C0 45+C8 49+CC 4F+D2 55+D9 61+E0 65+E8 69+EC 6F+F2 75+F9 DC+1DB FC+1DC 4E+1F8 6E+1F9",
  "300:415+400 418+40D 435+450 438+45D 112+1E14 113+1E15 14C+1E50 14D+1E51 57+1E80 77+1E81",
  "300:C2+1EA6 E2+1EA7 102+1EB0 103+1EB1 CA+1EC0 EA+1EC1 D4+1ED2 F4+1ED3 1A0+1EDC 1A1+1EDD",
  "300:1AF+1EEA 1B0+1EEB 59+1EF2 79+1EF3 1F00+1F02 1F01+1F03 1F08+1F0A 1F09+1F0B 1F10+1F12",
  "300:1F11+1F13 1F18+1F1A 1F19+1F1B 1F20+1F22 1F21+1F23 1F28+1F2A 1F29+1F2B 1F30+1F32",
  "300:1F31+1F33 1F38+1F3A 1F39+1F3B 1F40+1F42 1F41+1F43 1F48+1F4A 1F49+1F4B 1F50+1F52",
  "300:1F51+1F53 1F59+1F5B 1F60+1F62 1F61+1F63 1F68+1F6A 1F69+1F6B 3B1+1F70 3B5+1F72 3B7+1F74",
  "300:3B9+1F76 3BF+1F78 3C5+1F7A 3C9+1F7C 391+1FBA 395+1FC8 397+1FCA 1FBF+1FCD 3CA+1FD2",
  "300:399+1FDA 1FFE+1FDD 3CB+1FE2 3A5+1FEA A8+1FED 39F+1FF8 3A9+1FFA",
  "301:41+C1 45+C9 49+CD 4F+D3 55+DA 59+DD 61+E1 65+E9 69+ED 6F+F3 75+FA 79+FD 43+106 63+107",
  "301:4C+139 6C+13A 4E+143 6E+144 52+154 72+155 53+15A 73+15B 5A+179 7A+17A DC+1D7 FC+1D8",
  "301:47+1F4 67+1F5 C5+1FA E5+1FB C6+1FC E6+1FD D8+1FE F8+1FF A8+385 391+386 395+388 397+389",
  "301:399+38A 39F+38C 3A5+38E 3A9+38F 3CA+390 3B1+3AC 3B5+3AD 3B7+3AE 3B9+3AF 3CB+3B0 3BF+3CC",
  "301:3C5+3CD 3C9+3CE 3D2+3D3 413+403 41A+40C 433+453 43A+45C C7+1E08 E7+1E09 112+1E16",
  "301:113+1E17 CF+1E2E EF+1E2F 4B+1E30 6B+1E31 4D+1E3E 6D+1E3F D5+1E4C F5+1E4D 14C+1E52",
  "301:14D+1E53 50+1E54 70+1E55 168+1E78 169+1E79 57+1E82 77+1E83 C2+1EA4 E2+1EA5 102+1EAE",
  "301:103+1EAF CA+1EBE EA+1EBF D4+1ED0 F4+1ED1 1A0+1EDA 1A1+1EDB 1AF+1EE8 1B0+1EE9 1F00+1F04",
  "301:1F01+1F05 1F08+1F0C 1F09+1F0D 1F10+1F14 1F11+1F15 1F18+1F1C 1F19+1F1D 1F20+1F24",
  "301:1F21+1F25 1F28+1F2C 1F29+1F2D 1F30+1F34 1F31+1F35 1F38+1F3C 1F39+1F3D 1F40+1F44",
  "301:1F41+1F45 1F48+1F4C 1F49+1F4D 1F50+1F54 1F51+1F55 1F59+1F5D 1F60+1F64 1F61+1F65",
  "301:1F68+1F6C 1F69+1F6D 1FBF+1FCE 1FFE+1FDE",
  "302:41+C2 45+CA 49+CE 4F+D4 55+DB 61+E2 65+EA 69+EE 6F+F4 75+FB 43+108 63+109 47+11C 67+11D",
  "302:48+124 68+125 4A+134 6A+135 53+15C 73+15D 57+174 77+175 59+176 79+177 5A+1E90 7A+1E91",
  "302:1EA0+1EAC 1EA1+1EAD 1EB8+1EC6 1EB9+1EC7 1ECC+1ED8 1ECD+1ED9",
  "303:41+C3 4E+D1 4F+D5 61+E3 6E+F1 6F+F5 49+128 69+129 55+168 75+169 56+1E7C 76+1E7D C2+1EAA",
  "303:E2+1EAB 102+1EB4 103+1EB5 45+1EBC 65+1EBD CA+1EC4 EA+1EC5 D4+1ED6 F4+1ED7 1A0+1EE0",
  "303:1A1+1EE1 1AF+1EEE 1B0+1EEF 59+1EF8 79+1EF9",
  "304:41+100 61+101 45+112 65+113 49+12A 69+12B 4F+14C 6F+14D 55+16A 75+16B DC+1D5 FC+1D6",
  "304:C4+1DE E4+1DF 226+1E0 227+1E1 C6+1E2 E6+1E3 1EA+1EC 1EB+1ED D6+22A F6+22B D5+22C F5+22D",
  "304:22E+230 22F+231 59+232 79+233 418+4E2 438+4E3 423+4EE 443+4EF 47+1E20 67+1E21 1E36+1E38",
  "304:1E37+1E39 1E5A+1E5C 1E5B+1E5D 3B1+1FB1 391+1FB9 3B9+1FD1 399+1FD9 3C5+1FE1 3A5+1FE9",
  "306:41+102 61+103 45+114 65+115 47+11E 67+11F 49+12C 69+12D 4F+14E 6F+14F 55+16C 75+16D",
  "306:423+40E 418+419 438+439 443+45E 416+4C1 436+4C2 410+4D0 430+4D1 415+4D6 435+4D7 228+1E1C",
  "306:229+1E1D 1EA0+1EB6 1EA1+1EB7 3B1+1FB0 391+1FB8 3B9+1FD0 399+1FD8 3C5+1FE0 3A5+1FE8",
  "307:43+10A 63+10B 45+116 65+117 47+120 67+121 49+130 5A+17B 7A+17C 41+226 61+227 4F+22E",
  "307:6F+22F 42+1E02 62+1E03 44+1E0A 64+1E0B 46+1E1E 66+1E1F 48+1E22 68+1E23 4D+1E40 6D+1E41",
  "307:4E+1E44 6E+1E45 50+1E56 70+1E57 52+1E58 72+1E59 53+1E60 73+1E61 15A+1E64 15B+1E65",
  "307:160+1E66 161+1E67 1E62+1E68 1E63+1E69 54+1E6A 74+1E6B 57+1E86 77+1E87 58+1E8A 78+1E8B",
  "307:59+1E8E 79+1E8F 17F+1E9B",
  "308:41+C4 45+CB 49+CF 4F+D6 55+DC 61+E4 65+EB 69+EF 6F+F6 75+FC 79+FF 59+178 399+3AA 3A5+3AB",
  "308:3B9+3CA 3C5+3CB 3D2+3D4 415+401 406+407 435+451 456+457 410+4D2 430+4D3 4D8+4DA 4D9+4DB",
  "308:416+4DC 436+4DD 417+4DE 437+4DF 418+4E4 438+4E5 41E+4E6 43E+4E7 4E8+4EA 4E9+4EB 42D+4EC",
  "308:44D+4ED 423+4F0 443+4F1 427+4F4 447+4F5 42B+4F8 44B+4F9 48+1E26 68+1E27 D5+1E4E F5+1E4F",
  "308:16A+1E7A 16B+1E7B 57+1E84 77+1E85 58+1E8C 78+1E8D 74+1E97",
  "309:41+1EA2 61+1EA3 C2+1EA8 E2+1EA9 102+1EB2 103+1EB3 45+1EBA 65+1EBB CA+1EC2 EA+1EC3",
  "309:49+1EC8 69+1EC9 4F+1ECE 6F+1ECF D4+1ED4 F4+1ED5 1A0+1EDE 1A1+1EDF 55+1EE6 75+1EE7",
  "309:1AF+1EEC 1B0+1EED 59+1EF6 79+1EF7;30A:41+C5 61+E5 55+16E 75+16F 77+1E98 79+1E99",
  "30B:4F+150 6F+151 55+170 75+171 423+4F2 443+4F3",
  "30C:43+10C 63+10D 44+10E 64+10F 45+11A 65+11B 4C+13D 6C+13E 4E+147 6E+148 52+158 72+159",
  "30C:53+160 73+161 54+164 74+165 5A+17D 7A+17E 41+1CD 61+1CE 49+1CF 69+1D0 4F+1D1 6F+1D2",
  "30C:55+1D3 75+1D4 DC+1D9 FC+1DA 47+1E6 67+1E7 4B+1E8 6B+1E9 1B7+1EE 292+1EF 6A+1F0 48+21E",
  "30C:68+21F",
  "30F:41+200 61+201 45+204 65+205 49+208 69+209 4F+20C 6F+20D 52+210 72+211 55+214 75+215",
  "30F:474+476 475+477",
  "311:41+202 61+203 45+206 65+207 49+20A 69+20B 4F+20E 6F+20F 52+212 72+213 55+216 75+217",
  "313:3B1+1F00 391+1F08 3B5+1F10 395+1F18 3B7+1F20 397+1F28 3B9+1F30 399+1F38 3BF+1F40",
  "313:39F+1F48 3C5+1F50 3C9+1F60 3A9+1F68 3C1+1FE4",
  "314:3B1+1F01 391+1F09 3B5+1F11 395+1F19 3B7+1F21 397+1F29 3B9+1F31 399+1F39 3BF+1F41",
  "314:39F+1F49 3C5+1F51 3A5+1F59 3C9+1F61 3A9+1F69 3C1+1FE5 3A1+1FEC",
  "31B:4F+1A0 6F+1A1 55+1AF 75+1B0",
  "323:42+1E04 62+1E05 44+1E0C 64+1E0D 48+1E24 68+1E25 4B+1E32 6B+1E33 4C+1E36 6C+1E37 4D+1E42",
  "323:6D+1E43 4E+1E46 6E+1E47 52+1E5A 72+1E5B 53+1E62 73+1E63 54+1E6C 74+1E6D 56+1E7E 76+1E7F",
  "323:57+1E88 77+1E89 5A+1E92 7A+1E93 41+1EA0 61+1EA1 45+1EB8 65+1EB9 49+1ECA 69+1ECB 4F+1ECC",
  "323:6F+1ECD 1A0+1EE2 1A1+1EE3 55+1EE4 75+1EE5 1AF+1EF0 1B0+1EF1 59+1EF4 79+1EF5",
  "324:55+1E72 75+1E73;325:41+1E00 61+1E01;326:53+218 73+219 54+21A 74+21B",
  "327:43+C7 63+E7 47+122 67+123 4B+136 6B+137 4C+13B 6C+13C 4E+145 6E+146 52+156 72+157 53+15E",
  "327:73+15F 54+162 74+163 45+228 65+229 44+1E10 64+1E11 48+1E28 68+1E29",
  "328:41+104 61+105 45+118 65+119 49+12E 69+12F 55+172 75+173 4F+1EA 6F+1EB",
  "32D:44+1E12 64+1E13 45+1E18 65+1E19 4C+1E3C 6C+1E3D 4E+1E4A 6E+1E4B 54+1E70 74+1E71 55+1E76",
  "32D:75+1E77;32E:48+1E2A 68+1E2B;330:45+1E1A 65+1E1B 49+1E2C 69+1E2D 55+1E74 75+1E75",
  "331:42+1E06 62+1E07 44+1E0E 64+1E0F 4B+1E34 6B+1E35 4C+1E3A 6C+1E3B 4E+1E48 6E+1E49 52+1E5E",
  "331:72+1E5F 54+1E6E 74+1E6F 5A+1E94 7A+1E95 68+1E96",
  "338:2190+219A 2192+219B 2194+21AE 21D0+21CD 21D4+21CE 21D2+21CF 2203+2204 2208+2209",
  "338:220B+220C 2223+2224 2225+2226 223C+2241 2243+2244 2245+2247 2248+2249 3D+2260 2261+2262",
  "338:224D+226D 3C+226E 3E+226F 2264+2270 2265+2271 2272+2274 2273+2275 2276+2278 2277+2279",
  "338:227A+2280 227B+2281 2282+2284 2283+2285 2286+2288 2287+2289 22A2+22AC 22A8+22AD",
  "338:22A9+22AE 22AB+22AF 227C+22E0 227D+22E1 2291+22E2 2292+22E3 22B2+22EA 22B3+22EB",
  "338:22B4+22EC 22B5+22ED",
  "342:1F00+1F06 1F01+1F07 1F08+1F0E 1F09+1F0F 1F20+1F26 1F21+1F27 1F28+1F2E 1F29+1F2F",
  "342:1F30+1F36 1F31+1F37 1F38+1F3E 1F39+1F3F 1F50+1F56 1F51+1F57 1F59+1F5F 1F60+1F66",
  "342:1F61+1F67 1F68+1F6E 1F69+1F6F 3B1+1FB6 A8+1FC1 3B7+1FC6 1FBF+1FCF 3B9+1FD6 3CA+1FD7",
  "342:1FFE+1FDF 3C5+1FE6 3CB+1FE7 3C9+1FF6",
  "345:1F00+1F80 1F01+1F81 1F02+1F82 1F03+1F83 1F04+1F84 1F05+1F85 1F06+1F86 1F07+1F87",
  "345:1F08+1F88 1F09+1F89 1F0A+1F8A 1F0B+1F8B 1F0C+1F8C 1F0D+1F8D 1F0E+1F8E 1F0F+1F8F",
  "345:1F20+1F90 1F21+1F91 1F22+1F92 1F23+1F93 1F24+1F94 1F25+1F95 1F26+1F96 1F27+1F97",
  "345:1F28+1F98 1F29+1F99 1F2A+1F9A 1F2B+1F9B 1F2C+1F9C 1F2D+1F9D 1F2E+1F9E 1F2F+1F9F",
  "345:1F60+1FA0 1F61+1FA1 1F62+1FA2 1F63+1FA3 1F64+1FA4 1F65+1FA5 1F66+1FA6 1F67+1FA7",
  "345:1F68+1FA8 1F69+1FA9 1F6A+1FAA 1F6B+1FAB 1F6C+1FAC 1F6D+1FAD 1F6E+1FAE 1F6F+1FAF",
  "345:1F70+1FB2 3B1+1FB3 3AC+1FB4 1FB6+1FB7 391+1FBC 1F74+1FC2 3B7+1FC3 3AE+1FC4 1FC6+1FC7",
  "345:397+1FCC 1F7C+1FF2 3C9+1FF3 3CE+1FF4 1FF6+1FF7 3A9+1FFC;653:627+622",
  "654:627+623 648+624 64A+626 6D5+6C0 6C1+6C2 6D2+6D3;655:627+625;93C:928+929 930+931 933+934",
  "9BE:9C7+9CB;9D7:9C7+9CC;B3E:B47+B4B;B56:B47+B48;B57:B47+B4C;BBE:BC6+BCA BC7+BCB",
  "BD7:B92+B94 BC6+BCC;C56:C46+C48;CC2:CC6+CCA;CD5:CBF+CC0 CC6+CC7 CCA+CCB;CD6:CC6+CC8",
  "D3E:D46+D4A D47+D4B;D57:D46+D4C;DCA:DD9+DDA DDC+DDD;DCF:DD9+DDC;DDF:DD9+DDE;102E:1025+1026",
  "1B35:1B05+1B06 1B07+1B08 1B09+1B0A 1B0B+1B0C 1B0D+1B0E 1B11+1B12 1B3A+1B3B 1B3C+1B3D",
  "1B35:1B3E+1B40 1B3F+1B41 1B42+1B43",
  "3099:304B+304C 304D+304E 304F+3050 3051+3052 3053+3054 3055+3056 3057+3058 3059+305A",
  "3099:305B+305C 305D+305E 305F+3060 3061+3062 3064+3065 3066+3067 3068+3069 306F+3070",
  "3099:3072+3073 3075+3076 3078+3079 307B+307C 3046+3094 309D+309E 30AB+30AC 30AD+30AE",
  "3099:30AF+30B0 30B1+30B2 30B3+30B4 30B5+30B6 30B7+30B8 30B9+30BA 30BB+30BC 30BD+30BE",
  "3099:30BF+30C0 30C1+30C2 30C4+30C5 30C6+30C7 30C8+30C9 30CF+30D0 30D2+30D3 30D5+30D6",
  "3099:30D8+30D9 30DB+30DC 30A6+30F4 30EF+30F7 30F0+30F8 30F1+30F9 30F2+30FA 30FD+30FE",
  "309A:306F+3071 3072+3074 3075+3077 3078+307A 307B+307D 30CF+30D1 30D2+30D4 30D5+30D7",
  "309A:30D8+30DA 30DB+30DD;110BA:11099+1109A 1109B+1109C 110A5+110AB",
  "11127:11131+1112E 11132+1112F;1133E:11347+1134B;11357:11347+1134C;114B0:114B9+114BC",
  "114BA:114B9+114BB;114BD:114B9+114BE;115AF:115B8+115BA 115B9+115BB;11930:11935+11938"]

/-- The runs of code points with a combining class other than zero. -/
def combiningRuns : List (Nat × Nat × Nat) := [
  (0x0300, 0x0314, 230), (0x0315, 0x0315, 232), (0x0316, 0x0319, 220), (0x031A, 0x031A, 232),
  (0x031B, 0x031B, 216), (0x031C, 0x0320, 220), (0x0321, 0x0322, 202), (0x0323, 0x0326, 220),
  (0x0327, 0x0328, 202), (0x0329, 0x0333, 220), (0x0334, 0x0338, 1), (0x0339, 0x033C, 220),
  (0x033D, 0x0344, 230), (0x0345, 0x0345, 240), (0x0346, 0x0346, 230), (0x0347, 0x0349, 220),
  (0x034A, 0x034C, 230), (0x034D, 0x034E, 220), (0x0350, 0x0352, 230), (0x0353, 0x0356, 220),
  (0x0357, 0x0357, 230), (0x0358, 0x0358, 232), (0x0359, 0x035A, 220), (0x035B, 0x035B, 230),
  (0x035C, 0x035C, 233), (0x035D, 0x035E, 234), (0x035F, 0x035F, 233), (0x0360, 0x0361, 234),
  (0x0362, 0x0362, 233), (0x0363, 0x036F, 230), (0x0483, 0x0487, 230), (0x0591, 0x0591, 220),
  (0x0592, 0x0595, 230), (0x0596, 0x0596, 220), (0x0597, 0x0599, 230), (0x059A, 0x059A, 222),
  (0x059B, 0x059B, 220), (0x059C, 0x05A1, 230), (0x05A2, 0x05A7, 220), (0x05A8, 0x05A9, 230),
  (0x05AA, 0x05AA, 220), (0x05AB, 0x05AC, 230), (0x05AD, 0x05AD, 222), (0x05AE, 0x05AE, 228),
  (0x05AF, 0x05AF, 230), (0x05B0, 0x05B0, 10), (0x05B1, 0x05B1, 11), (0x05B2, 0x05B2, 12),
  (0x05B3, 0x05B3, 13), (0x05B4, 0x05B4, 14), (0x05B5, 0x05B5, 15), (0x05B6, 0x05B6, 16),
  (0x05B7, 0x05B7, 17), (0x05B8, 0x05B8, 18), (0x05B9, 0x05BA, 19), (0x05BB, 0x05BB, 20),
  (0x05BC, 0x05BC, 21), (0x05BD, 0x05BD, 22), (0x05BF, 0x05BF, 23), (0x05C1, 0x05C1, 24),
  (0x05C2, 0x05C2, 25), (0x05C4, 0x05C4, 230), (0x05C5, 0x05C5, 220), (0x05C7, 0x05C7, 18),
  (0x0610, 0x0617, 230), (0x0618, 0x0618, 30), (0x0619, 0x0619, 31), (0x061A, 0x061A, 32),
  (0x064B, 0x064B, 27), (0x064C, 0x064C, 28), (0x064D, 0x064D, 29), (0x064E, 0x064E, 30),
  (0x064F, 0x064F, 31), (0x0650, 0x0650, 32), (0x0651, 0x0651, 33), (0x0652, 0x0652, 34),
  (0x0653, 0x0654, 230), (0x0655, 0x0656, 220), (0x0657, 0x065B, 230), (0x065C, 0x065C, 220),
  (0x065D, 0x065E, 230), (0x065F, 0x065F, 220), (0x0670, 0x0670, 35), (0x06D6, 0x06DC, 230),
  (0x06DF, 0x06E2, 230), (0x06E3, 0x06E3, 220), (0x06E4, 0x06E4, 230), (0x06E7, 0x06E8, 230),
  (0x06EA, 0x06EA, 220), (0x06EB, 0x06EC, 230), (0x06ED, 0x06ED, 220), (0x0711, 0x0711, 36),
  (0x0730, 0x0730, 230), (0x0731, 0x0731, 220), (0x0732, 0x0733, 230), (0x0734, 0x0734, 220),
  (0x0735, 0x0736, 230), (0x0737, 0x0739, 220), (0x073A, 0x073A, 230), (0x073B, 0x073C, 220),
  (0x073D, 0x073D, 230), (0x073E, 0x073E, 220), (0x073F, 0x0741, 230), (0x0742, 0x0742, 220),
  (0x0743, 0x0743, 230), (0x0744, 0x0744, 220), (0x0745, 0x0745, 230), (0x0746, 0x0746, 220),
  (0x0747, 0x0747, 230), (0x0748, 0x0748, 220), (0x0749, 0x074A, 230), (0x07EB, 0x07F1, 230),
  (0x07F2, 0x07F2, 220), (0x07F3, 0x07F3, 230), (0x07FD, 0x07FD, 220), (0x0816, 0x0819, 230),
  (0x081B, 0x0823, 230), (0x0825, 0x0827, 230), (0x0829, 0x082D, 230), (0x0859, 0x085B, 220),
  (0x0898, 0x0898, 230), (0x0899, 0x089B, 220), (0x089C, 0x089F, 230), (0x08CA, 0x08CE, 230),
  (0x08CF, 0x08D3, 220), (0x08D4, 0x08E1, 230), (0x08E3, 0x08E3, 220), (0x08E4, 0x08E5, 230),
  (0x08E6, 0x08E6, 220), (0x08E7, 0x08E8, 230), (0x08E9, 0x08E9, 220), (0x08EA, 0x08EC, 230),
  (0x08ED, 0x08EF, 220), (0x08F0, 0x08F0, 27), (0x08F1, 0x08F1, 28), (0x08F2, 0x08F2, 29),
  (0x08F3, 0x08F5, 230), (0x08F6, 0x08F6, 220), (0x08F7, 0x08F8, 230), (0x08F9, 0x08FA, 220),
  (0x08FB, 0x08FF, 230), (0x093C, 0x093C, 7), (0x094D, 0x094D, 9), (0x0951, 0x0951, 230),
  (0x0952, 0x0952, 220), (0x0953, 0x0954, 230), (0x09BC, 0x09BC, 7), (0x09CD, 0x09CD, 9),
  (0x09FE, 0x09FE, 230), (0x0A3C, 0x0A3C, 7), (0x0A4D, 0x0A4D, 9), (0x0ABC, 0x0ABC, 7),
  (0x0ACD, 0x0ACD, 9), (0x0B3C, 0x0B3C, 7), (0x0B4D, 0x0B4D, 9), (0x0BCD, 0x0BCD, 9),
  (0x0C3C, 0x0C3C, 7), (0x0C4D, 0x0C4D, 9), (0x0C55, 0x0C55, 84), (0x0C56, 0x0C56, 91),
  (0x0CBC, 0x0CBC, 7), (0x0CCD, 0x0CCD, 9), (0x0D3B, 0x0D3C, 9), (0x0D4D, 0x0D4D, 9),
  (0x0DCA, 0x0DCA, 9), (0x0E38, 0x0E39, 103), (0x0E3A, 0x0E3A, 9), (0x0E48, 0x0E4B, 107),
  (0x0EB8, 0x0EB9, 118), (0x0EBA, 0x0EBA, 9), (0x0EC8, 0x0ECB, 122), (0x0F18, 0x0F19, 220),
  (0x0F35, 0x0F35, 220), (0x0F37, 0x0F37, 220), (0x0F39, 0x0F39, 216), (0x0F71, 0x0F71, 129),
  (0x0F72, 0x0F72, 130), (0x0F74, 0x0F74, 132), (0x0F7A, 0x0F7D, 130), (0x0F80, 0x0F80, 130),
  (0x0F82, 0x0F83, 230), (0x0F84, 0x0F84, 9), (0x0F86, 0x0F87, 230), (0x0FC6, 0x0FC6, 220),
  (0x1037, 0x1037, 7), (0x1039, 0x103A, 9), (0x108D, 0x108D, 220), (0x135D, 0x135F, 230),
  (0x1714, 0x1715, 9), (0x1734, 0x1734, 9), (0x17D2, 0x17D2, 9), (0x17DD, 0x17DD, 230),
  (0x18A9, 0x18A9, 228), (0x1939, 0x1939, 222), (0x193A, 0x193A, 230), (0x193B, 0x193B, 220),
  (0x1A17, 0x1A17, 230), (0x1A18, 0x1A18, 220), (0x1A60, 0x1A60, 9), (0x1A75, 0x1A7C, 230),
  (0x1A7F, 0x1A7F, 220), (0x1AB0, 0x1AB4, 230), (0x1AB5, 0x1ABA, 220), (0x1ABB, 0x1ABC, 230),
  (0x1ABD, 0x1ABD, 220), (0x1ABF, 0x1AC0, 220), (0x1AC1, 0x1AC2, 230), (0x1AC3, 0x1AC4, 220),
  (0x1AC5, 0x1AC9, 230), (0x1ACA, 0x1ACA, 220), (0x1ACB, 0x1ACE, 230), (0x1B34, 0x1B34, 7),
  (0x1B44, 0x1B44, 9), (0x1B6B, 0x1B6B, 230), (0x1B6C, 0x1B6C, 220), (0x1B6D, 0x1B73, 230),
  (0x1BAA, 0x1BAB, 9), (0x1BE6, 0x1BE6, 7), (0x1BF2, 0x1BF3, 9), (0x1C37, 0x1C37, 7),
  (0x1CD0, 0x1CD2, 230), (0x1CD4, 0x1CD4, 1), (0x1CD5, 0x1CD9, 220), (0x1CDA, 0x1CDB, 230),
  (0x1CDC, 0x1CDF, 220), (0x1CE0, 0x1CE0, 230), (0x1CE2, 0x1CE8, 1), (0x1CED, 0x1CED, 220),
  (0x1CF4, 0x1CF4, 230), (0x1CF8, 0x1CF9, 230), (0x1DC0, 0x1DC1, 230), (0x1DC2, 0x1DC2, 220),
  (0x1DC3, 0x1DC9, 230), (0x1DCA, 0x1DCA, 220), (0x1DCB, 0x1DCC, 230), (0x1DCD, 0x1DCD, 234),
  (0x1DCE, 0x1DCE, 214), (0x1DCF, 0x1DCF, 220), (0x1DD0, 0x1DD0, 202), (0x1DD1, 0x1DF5, 230),
  (0x1DF6, 0x1DF6, 232), (0x1DF7, 0x1DF8, 228), (0x1DF9, 0x1DF9, 220), (0x1DFA, 0x1DFA, 218),
  (0x1DFB, 0x1DFB, 230), (0x1DFC, 0x1DFC, 233), (0x1DFD, 0x1DFD, 220), (0x1DFE, 0x1DFE, 230),
  (0x1DFF, 0x1DFF, 220), (0x20D0, 0x20D1, 230), (0x20D2, 0x20D3, 1), (0x20D4, 0x20D7, 230),
  (0x20D8, 0x20DA, 1), (0x20DB, 0x20DC, 230), (0x20E1, 0x20E1, 230), (0x20E5, 0x20E6, 1),
  (0x20E7, 0x20E7, 230), (0x20E8, 0x20E8, 220), (0x20E9, 0x20E9, 230), (0x20EA, 0x20EB, 1),
  (0x20EC, 0x20EF, 220), (0x20F0, 0x20F0, 230), (0x2CEF, 0x2CF1, 230), (0x2D7F, 0x2D7F, 9),
  (0x2DE0, 0x2DFF, 230), (0x302A, 0x302A, 218), (0x302B, 0x302B, 228), (0x302C, 0x302C, 232),
  (0x302D, 0x302D, 222), (0x302E, 0x302F, 224), (0x3099, 0x309A, 8), (0xA66F, 0xA66F, 230),
  (0xA674, 0xA67D, 230), (0xA69E, 0xA69F, 230), (0xA6F0, 0xA6F1, 230), (0xA806, 0xA806, 9),
  (0xA82C, 0xA82C, 9), (0xA8C4, 0xA8C4, 9), (0xA8E0, 0xA8F1, 230), (0xA92B, 0xA92D, 220),
  (0xA953, 0xA953, 9), (0xA9B3, 0xA9B3, 7), (0xA9C0, 0xA9C0, 9), (0xAAB0, 0xAAB0, 230),
  (0xAAB2, 0xAAB3, 230), (0xAAB4, 0xAAB4, 220), (0xAAB7, 0xAAB8, 230), (0xAABE, 0xAABF, 230),
  (0xAAC1, 0xAAC1, 230), (0xAAF6, 0xAAF6, 9), (0xABED, 0xABED, 9), (0xFB1E, 0xFB1E, 26),
  (0xFE20, 0xFE26, 230), (0xFE27, 0xFE2D, 220), (0xFE2E, 0xFE2F, 230), (0x101FD, 0x101FD, 220),
  (0x102E0, 0x102E0, 220), (0x10376, 0x1037A, 230), (0x10A0D, 0x10A0D, 220),
  (0x10A0F, 0x10A0F, 230), (0x10A38, 0x10A38, 230), (0x10A39, 0x10A39, 1), (0x10A3A, 0x10A3A, 220),
  (0x10A3F, 0x10A3F, 9), (0x10AE5, 0x10AE5, 230), (0x10AE6, 0x10AE6, 220), (0x10D24, 0x10D27, 230),
  (0x10EAB, 0x10EAC, 230), (0x10F46, 0x10F47, 220), (0x10F48, 0x10F4A, 230),
  (0x10F4B, 0x10F4B, 220), (0x10F4C, 0x10F4C, 230), (0x10F4D, 0x10F50, 220),
  (0x10F82, 0x10F82, 230), (0x10F83, 0x10F83, 220), (0x10F84, 0x10F84, 230),
  (0x10F85, 0x10F85, 220), (0x11046, 0x11046, 9), (0x11070, 0x11070, 9), (0x1107F, 0x1107F, 9),
  (0x110B9, 0x110B9, 9), (0x110BA, 0x110BA, 7), (0x11100, 0x11102, 230), (0x11133, 0x11134, 9),
  (0x11173, 0x11173, 7), (0x111C0, 0x111C0, 9), (0x111CA, 0x111CA, 7), (0x11235, 0x11235, 9),
  (0x11236, 0x11236, 7), (0x112E9, 0x112E9, 7), (0x112EA, 0x112EA, 9), (0x1133B, 0x1133C, 7),
  (0x1134D, 0x1134D, 9), (0x11366, 0x1136C, 230), (0x11370, 0x11374, 230), (0x11442, 0x11442, 9),
  (0x11446, 0x11446, 7), (0x1145E, 0x1145E, 230), (0x114C2, 0x114C2, 9), (0x114C3, 0x114C3, 7),
  (0x115BF, 0x115BF, 9), (0x115C0, 0x115C0, 7), (0x1163F, 0x1163F, 9), (0x116B6, 0x116B6, 9),
  (0x116B7, 0x116B7, 7), (0x1172B, 0x1172B, 9), (0x11839, 0x11839, 9), (0x1183A, 0x1183A, 7),
  (0x1193D, 0x1193E, 9), (0x11943, 0x11943, 7), (0x119E0, 0x119E0, 9), (0x11A34, 0x11A34, 9),
  (0x11A47, 0x11A47, 9), (0x11A99, 0x11A99, 9), (0x11C3F, 0x11C3F, 9), (0x11D42, 0x11D42, 7),
  (0x11D44, 0x11D45, 9), (0x11D97, 0x11D97, 9), (0x16AF0, 0x16AF4, 1), (0x16B30, 0x16B36, 230),
  (0x16FF0, 0x16FF1, 6), (0x1BC9E, 0x1BC9E, 1), (0x1D165, 0x1D166, 216), (0x1D167, 0x1D169, 1),
  (0x1D16D, 0x1D16D, 226), (0x1D16E, 0x1D172, 216), (0x1D17B, 0x1D182, 220),
  (0x1D185, 0x1D189, 230), (0x1D18A, 0x1D18B, 220), (0x1D1AA, 0x1D1AD, 230),
  (0x1D242, 0x1D244, 230), (0x1E000, 0x1E006, 230), (0x1E008, 0x1E018, 230),
  (0x1E01B, 0x1E021, 230), (0x1E023, 0x1E024, 230), (0x1E026, 0x1E02A, 230),
  (0x1E130, 0x1E136, 230), (0x1E2AE, 0x1E2AE, 230), (0x1E2EC, 0x1E2EF, 230),
  (0x1E8D0, 0x1E8D6, 220), (0x1E944, 0x1E949, 230), (0x1E94A, 0x1E94A, 7)]

/-- A hexadecimal number in upper-case digits. -/
def readHex (text : String) : Nat :=
  text.toList.foldl (fun n c => 16 * n + (if c.isDigit then c.toNat - 48 else c.toNat - 55)) 0

/-- One row of a table: its key and, per form, the numbers joined in it. -/
def readRow (row : String) : Nat × List (List Nat) :=
  match row.splitOn ":" with
  | [key, forms] => (readHex key, (forms.splitOn " ").map fun form => (form.splitOn "+").map readHex)
  | _ => (0, [])

/-- All rows of a table. -/
def readRows (text : List String) : List (Nat × List (List Nat)) :=
  text.flatMap fun line => (line.splitOn ";").map readRow

/-- The rows of decompositions, by the first code point of each run. -/
def decompositionRows : List (Nat × List (List Nat)) := readRows decompositionText

/-- The rows of compositions, by the second character of each pair. -/
def compositionRows : List (Nat × List (List Nat)) := readRows compositionText

/-! ## Taking apart -/

/-- The combining class of a code point. -/
def combiningClass (n : Nat) : Nat :=
  match combiningRuns.find? fun (first, last, _) => first ≤ n && n ≤ last with
  | some (_, _, k) => k
  | none => 0

/-- The basic characters of one code point. -/
def decompose (n : Nat) : List Nat :=
  if 0xAC00 ≤ n && n ≤ 0xD7A3 then
    let s := n - 0xAC00
    let lead := [0x1100 + s / 588, 0x1161 + s % 588 / 28]
    if s % 28 = 0 then lead else lead ++ [0x11A7 + s % 28]
  else
    let within : Nat × List (List Nat) → Option (List Nat) := fun (first, forms) =>
      if first ≤ n then forms[n - first]? else none
    (decompositionRows.findSome? within).getD [n]

/-- Moves a mark before those of a higher class that stand directly before it; the marks come in reverse. -/
def insertMark (mark : Nat) : List Nat → List Nat
  | [] => [mark]
  | m :: rest =>
    if combiningClass mark < combiningClass m then m :: insertMark mark rest else mark :: m :: rest

/-- Puts every run of marks in ascending order of class, equal classes keeping their order. -/
def orderMarks (ns : List Nat) : List Nat :=
  (ns.foldl (fun done n => if combiningClass n = 0 then n :: done else insertMark n done) []).reverse

/-! ## Putting together -/

/-- The composition of two characters, if they have one. -/
def composePair? (a b : Nat) : Option Nat :=
  if 0x1100 ≤ a && a < 0x1113 && 0x1161 ≤ b && b < 0x1176 then
    some (0xAC00 + ((a - 0x1100) * 21 + (b - 0x1161)) * 28)
  else if 0xAC00 ≤ a && a ≤ 0xD7A3 && (a - 0xAC00) % 28 = 0 && 0x11A7 < b && b < 0x11C3 then
    some (a + (b - 0x11A7))
  else
    let within : List Nat → Option Nat := fun form =>
      match form with
      | [first, both] => if first = a then some both else none
      | _ => none
    compositionRows.findSome? fun (second, forms) => if second = b then forms.findSome? within else none

/-- Composes from the left. `starter` is the last base character, `kept` the marks after it that did not
compose, in reverse; a mark is blocked by a kept one whose class is not lower. -/
def composeFrom : Option Nat → List Nat → List Nat → List Nat
  | none, kept, [] => kept.reverse
  | some s, kept, [] => s :: kept.reverse
  | none, kept, n :: rest =>
    if combiningClass n = 0 then kept.reverse ++ composeFrom (some n) [] rest
    else composeFrom none (n :: kept) rest
  | some s, kept, n :: rest =>
    let blocked := match kept with
      | [] => false
      | m :: _ => combiningClass n ≤ combiningClass m
    match if blocked then none else composePair? s n with
    | some both => composeFrom (some both) kept rest
    | none =>
      if combiningClass n = 0 then s :: (kept.reverse ++ composeFrom (some n) [] rest)
      else composeFrom (some s) (n :: kept) rest

/-- The compatibility composition of a text; ASCII stays as it is. -/
def compatible (t : Text) : Text :=
  if t.all CodePoint.isAscii then t
  else (composeFrom none [] (orderMarks (t.flatMap fun c => decompose c.val))).map CodePoint.ofNat

end SourceAtlas.Unicode
