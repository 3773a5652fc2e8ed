/-
Tables for the normal form of identifiers: what characters are made of, and how the
marks among them are ordered.

Entries are divided by blanks, numbers are in base 16. `G-L:C` stands for a run of
characters with successive images, or marks of one class; `G:B+C,D,E+F` for successive
characters, each with its parts. `G` is the distance from the last character before, and a
part that is left out is that of the character before.
-/

namespace SourceAudit.Text

/-- What characters are made of that are put together again. -/
def wholeTable : String := "
  C0:41+300,+301,+302,+303,+308,+30A 2:43+327,45+300,+301,+302,+308,49+300,+301,+302,+308
  2:4E+303,4F+300,+301,+302,+303,+308 3:55+300,+301,+302,+308,59+301 3:61+300,+301,+302,+303,+308
  1:61+30A 2:63+327,65+300,+301,+302,+308,69+300,+301,+302,+308 2:6E+303,6F+300,+301,+302,+303,+308
  3:75+300,+301,+302,+308,79+301 2:79+308,41+304,61+,41+306,61+,41+328,61+,43+301,63+,43+302,63+
  1:43+307,63+,43+30C,63+,44+,64+ 3:45+304,65+,45+306,65+,45+307,65+,45+328,65+,45+30C,65+,47+302
  1:67+302,47+306,67+,47+307,67+,47+327,67+,48+302,68+ 3:49+303,69+,49+304,69+,49+306,69+,49+328,69+
  1:49+307 4:4A+302,6A+,4B+327,6B+ 2:4C+301,6C+,4C+327,6C+,4C+30C,6C+ 5:4E+301,6E+,4E+327,6E+,4E+30C
  1:6E+30C 4:4F+304,6F+,4F+306,6F+,4F+30B,6F+ 3:52+301,72+,52+327,72+,52+30C,72+,53+301,73+,53+302
  1:73+302,53+327,73+,53+30C,73+,54+327,74+,54+30C,74+ 3:55+303,75+,55+304,75+,55+306,75+,55+30A,75+
  1:55+30B,75+,55+328,75+,57+302,77+,59+,79+,59+308,5A+301,7A+,5A+307,7A+,5A+30C,7A+ 22:4F+31B,6F+
  E:55+31B,75+ 1D:41+30C,61+,49+,69+,4F+,6F+,55+,75+,55+308+304,75++,55++301,75++,55++30C,75++
  1:55+308+300,75++ 2:41+308+304,61++,41+307+,61++,C6+304,E6+ 3:47+30C,67+,4B+,6B+,4F+328,6F+
  1:4F+328+304,6F++,1B7+30C,292+,6A+ 4:47+301,67+ 3:4E+300,6E+,41+30A+301,61++,C6+301,E6+,D8+,F8+
  1:41+30F,61+,41+311,61+,45+30F,65+,45+311,65+,49+30F,69+,49+311,69+,4F+30F,6F+,4F+311,6F+,52+30F
  1:72+30F,52+311,72+,55+30F,75+,55+311,75+,53+326,73+,54+,74+ 3:48+30C,68+ 7:41+307,61+,45+327,65+
  1:4F+308+304,6F++,4F+303+,6F++,4F+307,6F+,4F++304,6F++,59+304,79+ 153:391+301 2:395+301,397+,399+
  2:39F+301 2:3A5+301,3A9+,3B9+308+301 1A:399+308,3A5+,3B1+301,3B5+,3B7+,3B9+,3C5+308+301
  1A:3B9+308,3C5+,3BF+301,3C5+,3C9+ 32:415+300,+308 2:413+301 4:406+308 5:41A+301,418+300,423+306
  B:418+306 20:438+306 17:435+300,+308 2:433+301 4:456+308 5:43A+301,438+300,443+306 18:474+30F,475+
  4A:416+306,436+ E:410+306,430+,410+308,430+ 3:415+306,435+ 3:4D8+308,4D9+,416+,436+,417+,437+
  3:418+304,438+,418+308,438+,41E+,43E+ 3:4E8+308,4E9+,42D+,44D+,423+304,443+,423+308,443+,423+30B
  1:443+30B,427+308,447+ 3:42B+308,44B+ 129:627+653,+654,648+,627+655,64A+654 9A:6D5+654 2:6C1+654
  11:6D2+654 256:928+93C 8:930+93C 3:933+93C 97:9C7+9BE,+9D7 17C:B47+B56 3:B47+B3E,+B57 48:B92+BD7
  36:BC6+BBE,BC7+,BC6+BD7 7C:C46+C56 78:CBF+CD5 7:CC6+CD5,+CD6 2:CC6+CC2,++CD5
  7F:D46+D3E,D47+,D46+D57 8E:DD9+DCA 2:DD9+DCF,++DCA,+DDF 248:1025+102E AE0:1B05+1B35 2:1B07+1B35
  2:1B09+1B35 2:1B0B+1B35 2:1B0D+1B35 4:1B11+1B35 29:1B3A+1B35 2:1B3C+1B35 3:1B3E+1B35,1B3F+
  2:1B42+1B35 2BD:41+325,61+,42+307,62+,42+323,62+,42+331,62+,43+327+301,63++,44+307,64+,44+323,64+
  1:44+331,64+,44+327,64+,44+32D,64+,45+304+300,65++,45++301,65++,45+32D,65+,45+330,65+,45+327+306
  1:65+327+306,46+307,66+,47+304,67+,48+307,68+,48+323,68+,48+308,68+,48+327,68+,48+32E,68+,49+330
  1:69+330,49+308+301,69++,4B+301,6B+,4B+323,6B+,4B+331,6B+,4C+323,6C+,4C++304,6C++,4C+331,6C+
  1:4C+32D,6C+,4D+301,6D+,4D+307,6D+,4D+323,6D+,4E+307,6E+,4E+323,6E+,4E+331,6E+,4E+32D,6E+
  1:4F+303+301,6F++,4F++308,6F++,4F+304+300,6F++,4F++301,6F++,50+301,70+,50+307,70+,52+,72+,52+323
  1:72+323,52++304,72++,52+331,72+,53+307,73+,53+323,73+,53+301+307,73++,53+30C+,73++,53+323+,73++
  1:54+307,74+,54+323,74+,54+331,74+,54+32D,74+,55+324,75+,55+330,75+,55+32D,75+,55+303+301,75++
  1:55+304+308,75++,56+303,76+,56+323,76+,57+300,77+,57+301,77+,57+308,77+,57+307,77+,57+323,77+
  1:58+307,78+,58+308,78+,59+307,79+,5A+302,7A+,5A+323,7A+,5A+331,7A+,68+,74+308,77+30A,79+
  7:41+323,61+,41+309,61+,41+302+301,61++,41++300,61++,41++309,61++,41++303,61++,41+323+302,61++
  1:41+306+301,61++,41++300,61++,41++309,61++,41++303,61++,41+323+306,61++,45+,65+,45+309,65+,45+303
  1:65+303,45+302+301,65++,45++300,65++,45++309,65++,45++303,65++,45+323+302,65++,49+309,69+,49+323
  1:69+323,4F+,6F+,4F+309,6F+,4F+302+301,6F++,4F++300,6F++,4F++309,6F++,4F++303,6F++,4F+323+302,6F++
  1:4F+31B+301,6F++,4F++300,6F++,4F++309,6F++,4F++303,6F++,4F++323,6F++,55+323,75+,55+309,75+
  1:55+31B+301,75++,55++300,75++,55++309,75++,55++303,75++,55++323,75++,59+300,79+,59+323,79+,59+309
  1:79+309,59+303,79+ 7:3B1+313,+314,+313+300,+314+,+313+301,+314+,+313+342,+314+,391+313,+314
  1:391+313+300,+314+,+313+301,+314+,+313+342,+314+,3B5+313,+314,+313+300,+314+,+313+301,+314+
  3:395+313,+314,+313+300,+314+,+313+301,+314+ 3:3B7+313,+314,+313+300,+314+,+313+301,+314+,+313+342
  1:3B7+314+342,397+313,+314,+313+300,+314+,+313+301,+314+,+313+342,+314+,3B9+313,+314,+313+300
  1:3B9+314+300,+313+301,+314+,+313+342,+314+,399+313,+314,+313+300,+314+,+313+301,+314+,+313+342
  1:399+314+342,3BF+313,+314,+313+300,+314+,+313+301,+314+ 3:39F+313,+314,+313+300,+314+,+313+301
  1:39F+314+301 3:3C5+313,+314,+313+300,+314+,+313+301,+314+,+313+342,+314+ 2:3A5+314 2:3A5+314+300
  2:3A5+314+301 2:3A5+314+342,3C9+313,+314,+313+300,+314+,+313+301,+314+,+313+342,+314+,3A9+313,+314
  1:3A9+313+300,+314+,+313+301,+314+,+313+342,+314+,3B1+300 2:3B5+300 2:3B7+300 2:3B9+300 2:3BF+300
  2:3C5+300 2:3C9+300 4:3B1+313+345,+314+,+313+300+345,+314++,+313+301+,+314++,+313+342+,+314++
  1:391+313+345,+314+,+313+300+345,+314++,+313+301+,+314++,+313+342+,+314++,3B7+313+345,+314+
  1:3B7+313+300+345,+314++,+313+301+,+314++,+313+342+,+314++,397+313+345,+314+,+313+300+345,+314++
  1:397+313+301+345,+314++,+313+342+,+314++,3C9+313+345,+314+,+313+300+345,+314++,+313+301+,+314++
  1:3C9+313+342+345,+314++,3A9+313+345,+314+,+313+300+345,+314++,+313+301+,+314++,+313+342+,+314++
  1:3B1+306,+304,+300+345,+345,+301+345 2:3B1+342,++345,391+306,+304,+300 2:391+345
  6:3B7+300+345,+345,+301+345 2:3B7+342,++345,395+300 2:397+300 2:397+345 4:3B9+306,+304,+308+300
  4:3B9+342,+308+342,399+306,+304,+300 6:3C5+306,+304,+308+300 2:3C1+313,+314,3C5+342,+308+342
  1:3A5+306,+304,+300 2:3A1+314 6:3C9+300+345,+345,+301+345 2:3C9+342,++345,39F+300 2:3A9+300
  2:3A9+345 1050:304B+3099 2:304D+3099 2:304F+3099 2:3051+3099 2:3053+3099 2:3055+3099 2:3057+3099
  2:3059+3099 2:305B+3099 2:305D+3099 2:305F+3099 2:3061+3099 3:3064+3099 2:3066+3099 2:3068+3099
  7:306F+3099,+309A 2:3072+3099,+309A 2:3075+3099,+309A 2:3078+3099,+309A 2:307B+3099,+309A
  17:3046+3099 A:309D+3099 E:30AB+3099 2:30AD+3099 2:30AF+3099 2:30B1+3099 2:30B3+3099 2:30B5+3099
  2:30B7+3099 2:30B9+3099 2:30BB+3099 2:30BD+3099 2:30BF+3099 2:30C1+3099 3:30C4+3099 2:30C6+3099
  2:30C8+3099 7:30CF+3099,+309A 2:30D2+3099,+309A 2:30D5+3099,+309A 2:30D8+3099,+309A
  2:30DB+3099,+309A 17:30A6+3099 3:30EF+3099,30F0+,30F1+,30F2+ 4:30FD+3099 DF9C:11099+110BA
  2:1109B+110BA F:110A5+110BA 83:11131+11127,11132+ 21C:11347+1133E,+11357 16F:114B9+114BA,+114B0
  2:114B9+114BD FC:115B8+115AF,115B9+ 37D:11935+11930"

/-- What other characters are made of, as far as they can be part of identifiers. -/
def partTable : String := "
  AA:61 B:3BC 5:6F 78:49+4A,69+6A C:4C+B7,6C+ 9:2BC+6E 36:73 45:44+5A+30C,+7A+,64++,4C+4A,+6A,6C+
  1:4E+4A,+6A,6E+ 25:44+5A,+7A,64+ BD:68,266,6A,72,279,27B,281,77,79 28:263,6C,73,78,295 5C:300,301
  2:313,308+301 30:2B9 13:B7 49:3B2,3B8,3A5,+301,+308,3C6,3C0 1A:3BA,3C1,3C2 2:398,3B5 4:3A3
  18E:565+582 EE:627+674,648+,6C7+,64A+ 2E0:915+93C,916+,917+,91C+,921+,922+,92B+,92F+
  7D:9A1+9BC,9A2+ 2:9AF+9BC 54:A32+A3C 3:A38+A3C 23:A16+A3C,A17+,A1C+ 3:A2B+A3C FE:B21+B3C,B22+
  2D6:E4D+E32 80:ECD+EB2 29:EAB+E99,+EA1 66:F42+FB7 A:F4C+FB7 5:F51+FB7 5:F56+FB7 5:F5B+FB7
  D:F40+FB5 A:F71+F72 2:F71+F74,FB2+F80,+F71+F80,FB3+F80,+F71+F80 8:F71+F80 12:F92+FB7 A:F9C+FB7
  5:FA1+FB7 5:FA6+FB7 5:FAB+FB7 D:F90+FB5 143:10DC C30:41,C6,42 2:44,45,18E 1-7:47 2:4F,222,50,52,54
  1:55,57,61,250,251,1D02,62,64,65,259,25B,25C,67 2:6B,6D,14B,6F,254,1D16,1D17,70,74,75,1D1D,26F,76
  1:1D25 1-2:3B2 1:3C6,3C7,69,72,75,76,3B2,3B3,3C1,3C6,3C7 E:43D 23:252,63,255,F0,25C,66,25F,261,265
  1-2:268 1:1D7B,29D,26D,1D85,29F,271,270 1-3:272 1:278,282,283,1AB,289,28A,1D1C,28B,28C,7A 1-2:290
  1:3B8 DB:61+2BE,73+307 D6:3B1+301 2:3B5+301 2:3B7+301 2:3B9+301 2:3BF+301 2:3C5+301 2:3C9+301
  3E:391+301 3:3B9 B:395+301 2:397+301 8:3B9+308+301 8:399+301 8:3C5+308+301 8:3A5+301 E:39F+301
  2:3A9+301 76:69 E:6E 11:61,65,6F,78,259,68 1-3:6B 1:70,73,74 66:43 5:190 3:67,48,48,48,68,127,49
  1:49,4C,6C 2:4E 4-2:50 1:52,52 7:5A 2:3A9 2:5A 2:4B,41+30A,42,43 2:65,45,46 2:4D,6F 1-3:5D0 1:69
  3:3C0,3B3,393,3A0 6:44,64,65,69,6A 17:49,+49,++49,+56,56,+49,++49,+++49,49+58,58,+49,++49,4C,43,44
  1:4D,69,+69,++69,+76,76,+69,++69,+++69,69+78,78,+69,++69,6C,63,64,6D AFD:6A,56 F2:2D61
  2C9:5341,5344,5345 65:3088+308A 60:30B3+30C8 32:1100,1101,11AA,1102,11AC,11AD 1-2:1103 1-5:11B0
  1:111A 1-2:1106 1:1121 1-9:1109 1-14:1161 1:1160,1114,1115,11C7,11C8,11CC,11CE,11D3,11D7,11D9,111C
  1:11DD,11DF,111D,111E,1120,1122,1123,1127,1129 1-4:112B 1:1132,1136,1140,1147,114C,11F1,11F2
  1-2:1157 1:1184,1185,1188,1191,1192,1194,119E,11A1 750E:44A,44C D3:A76F 82:43,46,51 4:126,153
  363:A727,AB37,26B,AB52 A:28D 4D97:8C48,66F4,8ECA,8CC8,6ED1,4E32,53E5,9F9C,9F9C,5951,91D1,5587,5948
  1:61F6,7669,7F85,863F,87BA,88F8,908F,6A02,6D1B,70D9,73DE,843D,916A,99F1,4E82,5375,6B04,721B,862D
  1:9E1E,5D50,6FEB,85CD,8964,62C9,81D8,881F,5ECA,6717,6D6A,72FC,90CE,4F86,51B7,52DE,64C4,6AD3,7210
  1:76E7,8001,8606,865C,8DEF,9732,9B6F,9DFA,788C,797F,7DA0,83C9,9304,9E7F,8AD6,58DF,5F04,7C60,807E
  1:7262,78CA,8CC2,96F7,58D8,5C62,6A13,6DDA,6F0F,7D2F,7E37,964B,52D2,808B,51DC,51CC,7A1C,7DBE,83F1
  1:9675,8B80,62CF,6A02,8AFE,4E39,5BE7,6012,7387,7570,5317,78FB,4FBF,5FA9,4E0D,6CCC,6578,7D22,53C3
  1:585E,7701,8449,8AAA,6BBA,8FB0,6C88,62FE,82E5,63A0,7565,4EAE,5169,51C9,6881,7CE7,826F,8AD2,91CF
  1:52F5,5442,5973,5EEC,65C5,6FFE,792A,95AD,9A6A,9E97,9ECE,529B,66C6,6B77,8F62,5E74,6190,6200,649A
  1:6F23,7149,7489,79CA,7DF4,806F,8F26,84EE,9023,934A,5217,52A3,54BD,70C8,88C2,8AAA,5EC9,5FF5,637B
  1:6BAE,7C3E,7375,4EE4,56F9,5BE7,5DBA,601C,73B2,7469,7F9A,8046,9234,96F6,9748,9818,4F8B,79AE,91B4
  1:96B8,60E1,4E86,50DA,5BEE,5C3F,6599,6A02,71CE,7642,84FC,907C,9F8D,6688,962E,5289,677B,67F3,6D41
  1:6E9C,7409,7559,786B,7D10,985E,516D,622E,9678,502B,5D19,6DEA,8F2A,5F8B,6144,6817,7387,9686,5229
  1:540F,5C65,6613,674E,68A8,6CE5,7406,75E2,7F79,88CF,88E1,91CC,96E2,533F,6EBA,541D,71D0,7498,85FA
  1:96A3,9C57,9E9F,6797,6DCB,81E8,7ACB,7B20,7C92,72C0,7099,8B58,4EC0,8336,523A,5207,5EA6,62D3,7CD6
  1:5B85,6D1E,66B4,8F3B,884C,964D,898B,5ED3,5140,55C0 3:585A 2:6674 3:51DE,732A,76CA,793C,795E,7965
  1:798F,9756,7CBE,7FBD 2:8612 2:8AF8 3:9038,90FD 4:98EF,98FC,9928,9DB4,90DE,96B7,4FAE,50E7,514D
  1:52C9,52E4,5351,559D,5606,5668,5840,58A8,5C64,5C6E,6094,6168,618E,61F2,654F,65E2,6691,6885,6D77
  1:6E1A,6F22,716E,722B,7422,7891,793E,7949,7948,7950,7956,795D,798D,798E,7A40,7A81,7BC0,7DF4,7E09
  1:7E41,7F72,8005,81ED,8279,8279,8457,8910,8996,8B01,8B39,8CD3,8D08,8FB6,9038,96E3,97FF,983B,6075
  1:242EE,8218 3:4E26,51B5,5168,4F80,5145,5180,52C7,52FA,559D,5555,5599,55E2,585A,58B3,5944,5954
  1:5A62,5B28,5ED2,5ED9,5F69,5FAD,60D8,614E,6108,618E,6160,61F2,6234,63C4,641C,6452,6556,6674,6717
  1:671B,6756,6B79,6BBA,6D41,6EDB,6ECB,6F22,701E,716E,77A7,7235,72AF,732A,7471,7506,753B,761D,761F
  1:76CA,76DB,76F4,774A,7740,78CC,7AB1,7BC0,7C7B,7D5B,7DF4,7F3E,8005,8352,83EF,8779,8941,8986,8996
  1:8ABF,8AF8,8ACB,8B01,8AFE,8AED,8B39,8B8A,8D08,8F38,9072,9199,9276,967C,96E3,9756,97DB,97FF,980B
  1:983B,9B12,9F9C,2284A,22844,233D5,3B9D,4018,4039,25249,25CD0,27ED3,9F43,9F8E 27:66+66,+69,+6C
  1:66+66+69,++6C,73+74,+ D:574+576,+565,+56B,57E+576,574+56D 6:5D9+5B4 2:5F2+5B7,5E2,5D0,5D3,5D4
  1-2:5DB 1:5E8,5EA 2:5E9+5C1,+5C2,+5BC+5C1,++5C2,5D0+5B7,+5B8,+5BC,5D1+,5D2+,5D3+,5D4+,5D5+,5D6+
  2:5D8+5BC,5D9+,5DA+,5DB+,5DC+ 2:5DE+5BC 2:5E0+5BC,5E1+ 2:5E3+5BC,5E4+ 2:5E6+5BC,5E7+,5E8+,5E9+
  1:5EA+5BC,5D5+5B9,5D1+5BF,5DB+,5E4+,5D0+5DC,671,671,67B,67B,67B,67B,67E,67E,67E,67E,680,680,680
  1:680,67A,67A,67A,67A,67F,67F,67F,67F,679,679,679,679,6A4,6A4,6A4,6A4,6A6,6A6,6A6,6A6,684,684,684
  1:684,683,683,683,683,686,686,686,686,687,687,687,687,68D,68D,68C,68C,68E,68E,688,688,698,698,691
  1:691,6A9,6A9,6A9,6A9,6AF,6AF,6AF,6AF,6B3,6B3,6B3,6B3,6B1,6B1,6B1,6B1,6BA,6BA,6BB,6BB,6BB,6BB
  1:6D5+654,+,6C1,6C1,6C1,6C1,6BE,6BE,6BE,6BE,6D2,6D2,+654,+ 22:6AD,6AD,6AD,6AD,6C7,6C7,6C6,6C6,6C8
  1:6C8,6C7+674,6CB,6CB,6C5,6C5,6C9,6C9,6D0,6D0,6D0,6D0,649,649,64A+654+627,++,++6D5,++,++648,++
  1:64A+654+6C7,++,++6C6,++,++6C8,++,++6D0,++,++,++649,++,++,6CC,6CC,6CC,6CC,64A+654+62C,++62D,++645
  1:64A+654+649,++64A,628+62C,+62D,+62E,+645,+649,+64A,62A+62C,+62D,+62E,+645,+649,+64A,62B+62C,+645
  1:62B+649,+64A,62C+62D,+645,62D+62C,+645,62E+62C,+62D,+645,633+62C,+62D,+62E,+645,635+62D,+645
  1:636+62C,+62D,+62E,+645,637+62D,+645,638+,639+62C,+645,63A+62C,+645,641+62C,+62D,+62E,+645,+649
  1:641+64A,642+62D,+645,+649,+64A,643+627,+62C,+62D,+62E,+644,+645,+649,+64A,644+62C,+62D,+62E,+645
  1:644+649,+64A,645+62C,+62D,+62E,+645,+649,+64A,646+62C,+62D,+62E,+645,+649,+64A,647+62C,+645,+649
  1:647+64A,64A+62C,+62D,+62E,+645,+649,+64A,630+670,631+,649+ 7:64A+654+631,++632,++645,++646,++649
  1:64A+654+64A,628+631,+632,+645,+646,+649,+64A,62A+631,+632,+645,+646,+649,+64A,62B+631,+632,+645
  1:62B+646,+649,+64A,641+649,+64A,642+649,+64A,643+627,+644,+645,+649,+64A,644+645,+649,+64A
  1:645+627,+645,646+631,+632,+645,+646,+649,+64A,649+670,64A+631,+632,+645,+646,+649,+64A,+654+62C
  1:64A+654+62D,++62E,++645,++647,628+62C,+62D,+62E,+645,+647,62A+62C,+62D,+62E,+645,+647,62B+645
  1:62C+62D,+645,62D+62C,+645,62E+62C,+645,633+62C,+62D,+62E,+645,635+62D,+62E,+645,636+62C,+62D
  1:636+62E,+645,637+62D,638+645,639+62C,+645,63A+62C,+645,641+62C,+62D,+62E,+645,642+62D,+645
  1:643+62C,+62D,+62E,+644,+645,644+62C,+62D,+62E,+645,+647,645+62C,+62D,+62E,+645,646+62C,+62D,+62E
  1:646+645,+647,647+62C,+645,+670,64A+62C,+62D,+62E,+645,+647,+654+645,++647,628+645,+647,62A+645
  1:62A+647,62B+645,+647,633+645,+647,634+645,+647,643+644,+645,644+,646+,+647,64A+645,+647
  1:640+64E+651,+64F+,+650+,637+649,+64A,639+649,+64A,63A+649,+64A,633+649,+64A,634+649,+64A,62D+649
  1:62D+64A,62C+649,+64A,62E+649,+64A,635+649,+64A,636+649,+64A,634+62C,+62D,+62E,+645,+631,633+
  1:635+631,636+,637+649,+64A,639+649,+64A,63A+649,+64A,633+649,+64A,634+649,+64A,62D+649,+64A
  1:62C+649,+64A,62E+649,+64A,635+649,+64A,636+649,+64A,634+62C,+62D,+62E,+645,+631,633+,635+,636+
  1:634+62C,+62D,+62E,+645,633+647,634+,637+645,633+62C,+62D,+62E,634+62C,+62D,+62E,637+645,638+
  1:627+64B,+ 13:62A+62C+645,+62D+62C,++,++645,+62E+,+645+62C,++62D,++62E,62C++62D,++,62D++64A,++649
  1:633+62D+62C,+62C+62D,++649,+645+62D,++,++62C,++645,++,635+62D+62D,++,+645+645,634+62D+,++
  1:634+62C+64A,+645+62E,++,++645,++,636+62D+649,+62E+645,++,637+645+62D,++,++645,++64A,639+62C+645
  1:639+645+645,++,++649,63A++645,++64A,++649,641+62E+645,++,642+645+62D,++645,644+62D+,++64A,++649
  1:644+62C+62C,++,+62E+645,++,+645+62D,++,645+62D+62C,++645,++64A,+62C+62D,++645,+62E+62C,++645
  3:645+62C+62E,647+645+62C,++645,646+62D+,++649,+62C+645,++,++649,+645+64A,++649,64A++645,++
  1:628+62E+64A,62A+62C+,++649,+62E+64A,++649,+645+64A,++649,62C++64A,+62D+649,+645+,633+62E+
  1:635+62D+64A,634++,636++,644+62C+,+645+,64A+62D+,+62C+,+645+,645++,642++,646+62D+,642+645+62D
  1:644+62D+645,639+645+64A,643++,646+62C+62D,645+62E+64A,644+62C+645,643+645+,644+62C+,646++62D
  1:62C+62D+64A,62D+62C+,645++,641+645+,628+62D+,643+645+645,639+62C+,635+645+,633+62E+64A,646+62C+
  29:635+644+6D2,642++,627++644+647,+643+628+631,645+62D+645+62F,635+644+639+645,631+633+648+644
  1:639+644+64A+647,648+633+644+645,635+644+649 3A:5F,5F 19:5F,5F,5F 22:640+64B 6:640+64E 2:640+64F
  2:640+650 2:640+651 2:640+652,621,627+653,+,+654,+,648+,+,627+655,+,64A+654,+,+,+,627,627,628,628
  1:628,628,629,629,62A,62A,62A,62A,62B,62B,62B,62B,62C,62C,62C,62C,62D,62D,62D,62D,62E,62E,62E,62E
  1:62F,62F,630,630,631,631,632,632,633,633,633,633,634,634,634,634,635,635,635,635,636,636,636,636
  1:637,637,637,637,638,638,638,638,639,639,639,639,63A,63A,63A,63A,641,641,641,641,642,642,642,642
  1:643,643,643,643,644,644,644,644,645,645,645,645,646,646,646,646,647,647,647,647,648,648,649,649
  1:64A,64A,64A,64A,644+627+653,++,++654,++,++655,++,+,+ 14-9:30 8-19:41 5:5F 2-19:61
  C:30F2,30A1,30A3,30A5,30A7,30A9,30E3,30E5,30E7,30C3,30FC,30A2,30A4,30A6,30A8,30AA,30AB,30AD,30AF
  1:30B1,30B3,30B5,30B7,30B9,30BB,30BD,30BF,30C1,30C4,30C6,30C8 1-5:30CA 1:30D2,30D5,30D8,30DB
  1-4:30DE 1:30E4,30E6 1-5:30E8 1:30EF,30F3,3099,309A,1160,1100,1101,11AA,1102,11AC,11AD 1-2:1103
  1-5:11B0 1:111A 1-2:1106 1:1121 1-9:1109 4-5:1161 3-5:1167 3-5:116D 3-2:1173 7A5:2D0,2D1,E6,299
  1:253 2:2A3,AB66,2A5,2A4,256,257,1D91,258,25E,2A9,264,262,260,29B,127,29C,267,284,2AA,2AB,26C
  1:1DF04,A78E,26E,1DF05,28E,1DF06,F8,276,277,71,27A,1DF08,27D,27E,280,2A8,2A6,AB67,2A7,288,2C71
  2:28F,2A1,2A2,298 1-2:1C0 1:1DF0A,1DF1E CC46-19:41 1-19:61 1-19:41 1-6:61 2-11:69 1-19:41 1-19:61
  1:41 2:43,44 3:47 3:4A,4B 3-3:4E 2-7:53 1-3:61 2:66 2-6:68 2-A:70 1-19:41 1-19:61 1:41,42 2-3:44
  3-7:4A 2-6:53 2-19:61 1:41,42 2-3:44 2-4:49 2:4F 4-6:53 2-19:61 1-19:41 1-19:61 1-19:41 1-19:61
  1-19:41 1-19:61 1-19:41 1-19:61 1-19:41 1-19:61 1-19:41 1-19:61 1:131,237 3-10:391 1:398 1-6:3A3
  2-18:3B1 2:3B5,3B8,3BA,3C6,3C1,3C0 1-10:391 1:398 1-6:3A3 2-18:3B1 2:3B5,3B8,3BA,3C6,3C1,3C0
  1-10:391 1:398 1-6:3A3 2-18:3B1 2:3B5,3B8,3BA,3C6,3C1,3C0 1-10:391 1:398 1-6:3A3 2-18:3B1
  2:3B5,3B8,3BA,3C6,3C1,3C0 1-10:391 1:398 1-6:3A3 2-18:3B1 2:3B5,3B8,3BA,3C6,3C1,3C0,3DC,3DD 3-9:30
  1-9:30 1-9:30 1-9:30 1-9:30 1601:627,628,62C,62F 2:648,632,62D,637,64A 1-3:643 1:633,639,641,635
  1:642,631,634,62A,62B,62E,630,636,638,63A,66E,6BA,6A1,66F 2:628,62C 2:647 3:62D 2:64A 1-3:643
  1:633,639,641,635,642 2:634,62A,62B,62E 2:636 2:63A 7:62C 5:62D 2:64A 2:644 2:646,633,639
  2:635,642 2:634 3:62E 2:636 2:63A 2:6BA 2:66F 2:628,62C 2:647 3:62D,637,64A,643 2:645,646,633,639
  1:641,635,642 2:634,62A,62B,62E 2:636,638,63A,66E 2:6A1 2:627,628,62C,62F,647,648,632,62D,637,64A
  2-2:644 1:633,639,641,635,642,631,634,62A,62B,62E,630,636,638,63A 6:628,62C,62F 2:648,632,62D,637
  1:64A 2-2:644 1:633,639,641,635,642,631,634,62A,62B,62E,630,636,638,63A D35-9:30
  FC07:4E3D,4E38,4E41,20122,4F60,4FAE,4FBB,5002,507A,5099,50E7,50CF,349E,2063A,514D,5154,5164,5177
  1:2051C,34B9,5167,518D,2054B,5197,51A4,4ECC,51AC,51B5,291DF,51F5,5203,34DF,523B,5246,5272,5277
  1:3515,52C7,52C9,52E4,52FA,5305,5306,5317,5349,5351,535A,5373,537D,537F,537F,537F,20A2C,7070,53CA
  1:53DF,20B63,53EB,53F1,5406,549E,5438,5448,5468,54A2,54F6,5510,5553,5563,5584,5584,5599,55AB,55B3
  1:55C2,5716,5606,5717,5651,5674,5207,58EE,57CE,57F4,580D,578B,5832,5831,58AC,214E4,58F2,58F7,5906
  1:591A,5922,5962,216A8,216EA,59EC,5A1B,5A27,59D8,5A66,36EE,36FC,5B08,5B3E,5B3E,219C8,5BC3,5BD8
  1:5BE7,5BF3,21B18,5BFF,5C06,5F53,5C22,3781,5C60,5C6E,5CC0,5C8D,21DE4,5D43,21DE6,5D6E,5D6B,5D7C
  1:5DE1,5DE2,382F,5DFD,5E28,5E3D,5E69,3862,22183,387C,5EB0,5EB3,5EB6,5ECA,2A392,5EFE,22331,22331
  1:8201,5F22,5F22,38C7,232B8,261DA,5F62,5F6B,38E3,5F9A,5FCD,5FD7,5FF9,6081,393A,391C,6094,226D4
  1:60C7,6148,614C,614E,614C,617A,618E,61B2,61A4,61AF,61DE,61F2,61F6,6210,621B,625D,62B1,62D4,6350
  1:22B0C,633D,62FC,6368,6383,63E4,22BF1,6422,63C5,63A9,3A2E,6469,647E,649D,6477,3A6C,654F,656C
  1:2300A,65E3,66F8,6649,3B19,6691,3B08,3AE4,5192,5195,6700,669C,80AD,43D9,6717,671B,6721,675E,6753
  1:233C3,3B49,67FA,6785,6852,6885,2346D,688E,681F,6914,3B9D,6942,69A3,69EA,6AA8,236A3,6ADB,3C18
  1:6B21,238A7,6B54,3C4E,6B72,6B9F,6BBA,6BBB,23A8D,21D0B,23AFA,6C4E,23CBC,6CBF,6CCD,6C67,6D16,6D3E
  1:6D77,6D41,6D69,6D78,6D85,23D1E,6D34,6E2F,6E6E,3D33,6ECB,6EC7,23ED1,6DF9,6F6E,23F5E,23F8E,6FC6
  1:7039,701E,701B,3D96,704A,707D,7077,70AD,20525,7145,24263,719C,243AB,7228,7235,7250,24608,7280
  1:7295,24735,24814,737A,738B,3EAC,73A5,3EB8,3EB8,7447,745C,7471,7485,74CA,3F1B,7524,24C36,753E
  1:24C92,7570,2219F,7610,24FA1,24FB8,25044,3FFC,4008,76F4,250F3,250F2,25119,25133,771E,771F,771F
  1:774A,4039,778B,4046,4096,2541D,784E,788C,78CC,40E3,25626,7956,2569A,256C5,798F,79EB,412F,7A40
  1:7A4A,7A4F,2597C,25AA7,25AA7,7AEE,4202,25BAB,7BC6,7BC9,4227,25C80,7CD2,42A0,7CE8,7CE3,7D00,25F86
  1:7D63,4301,7DC7,7E02,7E45,4334,26228,26247,4359,262D9,7F7A,2633E,7F95,7FFA,8005,264DA,26523,8060
  1:265A8,8070,2335F,43D5,80B2,8103,440B,813E,5AB5,267A7,267B5,23393,2339C,8201,8204,8F9E,446B,8291
  1:828B,829D,52B3,82B1,82B3,82BD,82E6,26B3C,82E5,831D,8363,83AD,8323,83BD,83E7,8457,8353,83CA,83CC
  1:83DC,26C36,26D6B,26CD5,452B,84F1,84F3,8516,273CA,8564,26F2C,455D,4561,26FB1,270D2,456B,8650,865C
  1:8667,8669,86A9,8688,870E,86E2,8779,8728,876B,8786,45D7,87E1,8801,45F9,8860,8863,27667,88D7,88DE
  1:4635,88FA,34BB,278AE,27966,46BE,46C7,8AA0,8AED,8B8A,8C55,27CA8,8CAB,8CC1,8D1B,8D77,27F2F,20804
  1:8DCB,8DBC,8DF0,208DE,8ED4,8F38,285D2,285ED,9094,90F1,9111,2872E,911B,9238,92D7,92D8,927C,93F9
  1:9415,28BFA,958B,4995,95B7,28D77,49E6,96C3,5DB2,9723,29145,2921A,4A6E,4A76,97E0,2940A,4AB2,29496
  1:980B,980B,9829,295B6,98E2,4B33,9929,99A7,99C2,99FE,4BCE,29B30,9B12,9C40,9CFD,4CCE,4CED,9D67
  1:2A0CE,4CF8,2A105,2A20E,2A291,9EBB,4D56,9EF9,9EFE,9F05,9F0F,9F16,9F3B,2A600"

/-- The classes of marks, by which they are ordered. -/
def markTable : String := "
  300-14:E6 1:E8 1-3:DC 1:E8 1:D8 1-4:DC 1-1:CA 1-3:DC 1-1:CA 1-A:DC 1-4:1 1-3:DC 1-7:E6 1:F0 1:E6
  1-2:DC 1-2:E6 1-1:DC 2-2:E6 1-3:DC 1:E6 1:E8 1-1:DC 1:E6 1:E9 1-1:EA 1:E9 1-1:EA 1:E9 1-C:E6
  114-4:E6 10A:DC 1-3:E6 1:DC 1-2:E6 1:DE 1:DC 1-5:E6 1-5:DC 1-1:E6 1:DC 1-1:E6 1:DE 1:E4 1:E6 1:A
  1:B 1:C 1:D 1:E 1:F 1:10 1:11 1:12 1-1:13 1:14 1:15 1:16 2:17 2:18 1:19 2:E6 1:DC 2:12 49-7:E6
  1:1E 1:1F 1:20 31:1B 1:1C 1:1D 1:1E 1:1F 1:20 1:21 1:22 1-1:E6 1-1:DC 1-4:E6 1:DC 1-1:E6 1:DC
  11:23 66-6:E6 3-3:E6 1:DC 1:E6 3-1:E6 2:DC 1-1:E6 1:DC 24:24 1F:E6 1:DC 1-1:E6 1:DC 1-1:E6 1-2:DC
  1:E6 1-1:DC 1:E6 1:DC 1-2:E6 1:DC 1:E6 1:DC 1:E6 1:DC 1:E6 1:DC 1-1:E6 A1-6:E6 1:DC 1:E6 A:DC
  19-3:E6 2-8:E6 2-2:E6 2-4:E6 2C-2:DC 3D:E6 1-2:DC 1-3:E6 2B-4:E6 1-4:DC 1-D:E6 2:DC 1-1:E6 1:DC
  1-1:E6 1:DC 1-2:E6 1-2:DC 1:1B 1:1C 1:1D 1-2:E6 1:DC 1-1:E6 1-1:DC 1-4:E6 3D:7 11:9 4:E6 1:DC
  1-1:E6 68:7 11:9 31:E6 3E:7 11:9 6F:7 11:9 6F:7 11:9 80:9 6F:7 11:9 8:54 1:5B 66:7 11:9 6E-1:9
  11:9 7D:9 6E-1:67 1:9 E-3:6B 6D-1:76 1:9 E-3:7A 4D-1:DC 1C:DC 2:DC 2:D8 38:81 1:82 2:84 6-3:82
  3:82 2-1:E6 1:9 2-1:E6 3F:DC 71:7 2-1:9 53:DC 2D0-2:E6 3B5-1:9 1F:9 9E:9 B:E6 CC:E4 90:DE 1:E6
  1:DC DC:E6 1:DC 48:9 15-7:E6 3:DC 31-4:E6 1-5:DC 1-1:E6 1:DC 2-1:DC 1-1:E6 1-1:DC 1-4:E6 1:DC
  1-3:E6 66:7 10:9 27:E6 1:DC 1-6:E6 37-1:9 3B:7 C-1:9 44:7 99-2:E6 2:1 1-4:DC 1-1:E6 1-3:DC 1:E6
  2-6:1 5:DC 7:E6 4-1:E6 C7-1:E6 1:DC 1-6:E6 1:DC 1-1:E6 1:EA 1:D6 1:DC 1:CA 1-24:E6 1:E8 1-1:E4
  1:DC 1:DA 1:E6 1:E9 1:DC 1:E6 1:DC 2D1-1:E6 1-1:1 1-3:E6 1-2:1 1-1:E6 5:E6 4-1:1 1:E6 1:DC 1:E6
  1-1:1 1-3:DC 1:E6 BFF-2:E6 8E:9 61-1F:E6 22B:DA 1:E4 1:E8 1:DE 1-1:E0 6A-1:8 75D5:E6 5-9:E6
  21-1:E6 51-1:E6 115:9 26:9 98:9 1C-11:E6 3A-2:DC 26:9 60:7 D:9 F0:E6 2-1:E6 1:DC 3-1:E6 6-1:E6
  2:E6 35:9 F7:9 4F31:1A 302-6:E6 1-6:DC 1-1:E6 3CE:DC E3:DC 96-4:E6 693:DC 2:E6 29:E6 1:1 1:DC 5:9
  A6:E6 1:DC 23E-3:E6 184-1:E6 9A-1:DC 1-2:E6 1:DC 1:E6 1-3:DC 32:E6 1:DC 1:E6 1:DC C1:9 2A:9 F:9
  3A:9 1:7 46-2:E6 31-1:9 3F:7 4D:9 A:7 6B:9 1:7 B3:7 1:9 51-1:7 11:9 19-6:E6 4-4:E6 CE:9 4:7 18:E6
  64:9 1:7 FC:9 1:7 7F:9 77:9 1:7 74:9 10E:9 1:7 103-1:9 5:7 9D:9 54:9 13:9 52:9 1A6:9 103:7 2-1:9
  52:9 4D59-4:1 3C-6:E6 4BA-1:6 4CAD:1 14C7-1:D8 1-2:1 4:E2 1-4:D8 9-7:DC 3-4:E6 1-1:DC 1F-3:E6
  95-2:E6 DBC-6:E6 2-10:E6 3-6:E6 2-1:E6 2-4:E6 106-6:E6 178:E6 3E-3:E6 5E1-6:DC 6E-5:E6 1:7"

end SourceAudit.Text
