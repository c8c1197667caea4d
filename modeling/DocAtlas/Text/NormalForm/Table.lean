/-!
Composed characters, other spellings of characters, and the order of marks.
-/
namespace DocAtlas.Text.NormalForm

/-- Characters composed of a letter and a mark: the mark, then `letter>composed` for each of its
letters. -/
def compositions : List String :=
  ["300: 41>C0 45>C8 49>CC 4F>D2 55>D9 61>E0 65>E8 69>EC 6F>F2 75>F9 DC>1DB FC>1DC 4E>1F8 6E>1F9",
    "415>400 418>40D 435>450 438>45D 112>1E14 113>1E15 14C>1E50 14D>1E51 57>1E80 77>1E81 C2>1EA6",
    "E2>1EA7 102>1EB0 103>1EB1 CA>1EC0 EA>1EC1 D4>1ED2 F4>1ED3 1A0>1EDC 1A1>1EDD 1AF>1EEA",
    "1B0>1EEB 59>1EF2 79>1EF3 1F00>1F02 1F01>1F03 1F08>1F0A 1F09>1F0B 1F10>1F12 1F11>1F13",
    "1F18>1F1A 1F19>1F1B 1F20>1F22 1F21>1F23 1F28>1F2A 1F29>1F2B 1F30>1F32 1F31>1F33 1F38>1F3A",
    "1F39>1F3B 1F40>1F42 1F41>1F43 1F48>1F4A 1F49>1F4B 1F50>1F52 1F51>1F53 1F59>1F5B 1F60>1F62",
    "1F61>1F63 1F68>1F6A 1F69>1F6B 3B1>1F70 3B5>1F72 3B7>1F74 3B9>1F76 3BF>1F78 3C5>1F7A 3C9>1F7C",
    "391>1FBA 395>1FC8 397>1FCA 3CA>1FD2 399>1FDA 3CB>1FE2 3A5>1FEA 39F>1FF8 3A9>1FFA 301: 41>C1",
    "45>C9 49>CD 4F>D3 55>DA 59>DD 61>E1 65>E9 69>ED 6F>F3 75>FA 79>FD 43>106 63>107 4C>139",
    "6C>13A 4E>143 6E>144 52>154 72>155 53>15A 73>15B 5A>179 7A>17A DC>1D7 FC>1D8 47>1F4 67>1F5",
    "C5>1FA E5>1FB C6>1FC E6>1FD D8>1FE F8>1FF 391>386 395>388 397>389 399>38A 39F>38C 3A5>38E",
    "3A9>38F 3CA>390 3B1>3AC 3B5>3AD 3B7>3AE 3B9>3AF 3CB>3B0 3BF>3CC 3C5>3CD 3C9>3CE 3D2>3D3",
    "413>403 41A>40C 433>453 43A>45C C7>1E08 E7>1E09 112>1E16 113>1E17 CF>1E2E EF>1E2F 4B>1E30",
    "6B>1E31 4D>1E3E 6D>1E3F D5>1E4C F5>1E4D 14C>1E52 14D>1E53 50>1E54 70>1E55 168>1E78 169>1E79",
    "57>1E82 77>1E83 C2>1EA4 E2>1EA5 102>1EAE 103>1EAF CA>1EBE EA>1EBF D4>1ED0 F4>1ED1 1A0>1EDA",
    "1A1>1EDB 1AF>1EE8 1B0>1EE9 1F00>1F04 1F01>1F05 1F08>1F0C 1F09>1F0D 1F10>1F14 1F11>1F15",
    "1F18>1F1C 1F19>1F1D 1F20>1F24 1F21>1F25 1F28>1F2C 1F29>1F2D 1F30>1F34 1F31>1F35 1F38>1F3C",
    "1F39>1F3D 1F40>1F44 1F41>1F45 1F48>1F4C 1F49>1F4D 1F50>1F54 1F51>1F55 1F59>1F5D 1F60>1F64",
    "1F61>1F65 1F68>1F6C 1F69>1F6D 302: 41>C2 45>CA 49>CE 4F>D4 55>DB 61>E2 65>EA 69>EE 6F>F4",
    "75>FB 43>108 63>109 47>11C 67>11D 48>124 68>125 4A>134 6A>135 53>15C 73>15D 57>174 77>175",
    "59>176 79>177 5A>1E90 7A>1E91 1EA0>1EAC 1EA1>1EAD 1EB8>1EC6 1EB9>1EC7 1ECC>1ED8 1ECD>1ED9",
    "303: 41>C3 4E>D1 4F>D5 61>E3 6E>F1 6F>F5 49>128 69>129 55>168 75>169 56>1E7C 76>1E7D C2>1EAA",
    "E2>1EAB 102>1EB4 103>1EB5 45>1EBC 65>1EBD CA>1EC4 EA>1EC5 D4>1ED6 F4>1ED7 1A0>1EE0 1A1>1EE1",
    "1AF>1EEE 1B0>1EEF 59>1EF8 79>1EF9 304: 41>100 61>101 45>112 65>113 49>12A 69>12B 4F>14C",
    "6F>14D 55>16A 75>16B DC>1D5 FC>1D6 C4>1DE E4>1DF 226>1E0 227>1E1 C6>1E2 E6>1E3 1EA>1EC",
    "1EB>1ED D6>22A F6>22B D5>22C F5>22D 22E>230 22F>231 59>232 79>233 418>4E2 438>4E3 423>4EE",
    "443>4EF 47>1E20 67>1E21 1E36>1E38 1E37>1E39 1E5A>1E5C 1E5B>1E5D 3B1>1FB1 391>1FB9 3B9>1FD1",
    "399>1FD9 3C5>1FE1 3A5>1FE9 306: 41>102 61>103 45>114 65>115 47>11E 67>11F 49>12C 69>12D",
    "4F>14E 6F>14F 55>16C 75>16D 423>40E 418>419 438>439 443>45E 416>4C1 436>4C2 410>4D0 430>4D1",
    "415>4D6 435>4D7 228>1E1C 229>1E1D 1EA0>1EB6 1EA1>1EB7 3B1>1FB0 391>1FB8 3B9>1FD0 399>1FD8",
    "3C5>1FE0 3A5>1FE8 307: 43>10A 63>10B 45>116 65>117 47>120 67>121 49>130 5A>17B 7A>17C 41>226",
    "61>227 4F>22E 6F>22F 42>1E02 62>1E03 44>1E0A 64>1E0B 46>1E1E 66>1E1F 48>1E22 68>1E23 4D>1E40",
    "6D>1E41 4E>1E44 6E>1E45 50>1E56 70>1E57 52>1E58 72>1E59 53>1E60 73>1E61 15A>1E64 15B>1E65",
    "160>1E66 161>1E67 1E62>1E68 1E63>1E69 54>1E6A 74>1E6B 57>1E86 77>1E87 58>1E8A 78>1E8B",
    "59>1E8E 79>1E8F 17F>1E9B 308: 41>C4 45>CB 49>CF 4F>D6 55>DC 61>E4 65>EB 69>EF 6F>F6 75>FC",
    "79>FF 59>178 399>3AA 3A5>3AB 3B9>3CA 3C5>3CB 3D2>3D4 415>401 406>407 435>451 456>457 410>4D2",
    "430>4D3 4D8>4DA 4D9>4DB 416>4DC 436>4DD 417>4DE 437>4DF 418>4E4 438>4E5 41E>4E6 43E>4E7",
    "4E8>4EA 4E9>4EB 42D>4EC 44D>4ED 423>4F0 443>4F1 427>4F4 447>4F5 42B>4F8 44B>4F9 48>1E26",
    "68>1E27 D5>1E4E F5>1E4F 16A>1E7A 16B>1E7B 57>1E84 77>1E85 58>1E8C 78>1E8D 74>1E97 309:",
    "41>1EA2 61>1EA3 C2>1EA8 E2>1EA9 102>1EB2 103>1EB3 45>1EBA 65>1EBB CA>1EC2 EA>1EC3 49>1EC8",
    "69>1EC9 4F>1ECE 6F>1ECF D4>1ED4 F4>1ED5 1A0>1EDE 1A1>1EDF 55>1EE6 75>1EE7 1AF>1EEC 1B0>1EED",
    "59>1EF6 79>1EF7 30A: 41>C5 61>E5 55>16E 75>16F 77>1E98 79>1E99 30B: 4F>150 6F>151 55>170",
    "75>171 423>4F2 443>4F3 30C: 43>10C 63>10D 44>10E 64>10F 45>11A 65>11B 4C>13D 6C>13E 4E>147",
    "6E>148 52>158 72>159 53>160 73>161 54>164 74>165 5A>17D 7A>17E 41>1CD 61>1CE 49>1CF 69>1D0",
    "4F>1D1 6F>1D2 55>1D3 75>1D4 DC>1D9 FC>1DA 47>1E6 67>1E7 4B>1E8 6B>1E9 1B7>1EE 292>1EF 6A>1F0",
    "48>21E 68>21F 30F: 41>200 61>201 45>204 65>205 49>208 69>209 4F>20C 6F>20D 52>210 72>211",
    "55>214 75>215 474>476 475>477 311: 41>202 61>203 45>206 65>207 49>20A 69>20B 4F>20E 6F>20F",
    "52>212 72>213 55>216 75>217 313: 3B1>1F00 391>1F08 3B5>1F10 395>1F18 3B7>1F20 397>1F28",
    "3B9>1F30 399>1F38 3BF>1F40 39F>1F48 3C5>1F50 3C9>1F60 3A9>1F68 3C1>1FE4 314: 3B1>1F01",
    "391>1F09 3B5>1F11 395>1F19 3B7>1F21 397>1F29 3B9>1F31 399>1F39 3BF>1F41 39F>1F49 3C5>1F51",
    "3A5>1F59 3C9>1F61 3A9>1F69 3C1>1FE5 3A1>1FEC 31B: 4F>1A0 6F>1A1 55>1AF 75>1B0 323: 42>1E04",
    "62>1E05 44>1E0C 64>1E0D 48>1E24 68>1E25 4B>1E32 6B>1E33 4C>1E36 6C>1E37 4D>1E42 6D>1E43",
    "4E>1E46 6E>1E47 52>1E5A 72>1E5B 53>1E62 73>1E63 54>1E6C 74>1E6D 56>1E7E 76>1E7F 57>1E88",
    "77>1E89 5A>1E92 7A>1E93 41>1EA0 61>1EA1 45>1EB8 65>1EB9 49>1ECA 69>1ECB 4F>1ECC 6F>1ECD",
    "1A0>1EE2 1A1>1EE3 55>1EE4 75>1EE5 1AF>1EF0 1B0>1EF1 59>1EF4 79>1EF5 324: 55>1E72 75>1E73",
    "325: 41>1E00 61>1E01 326: 53>218 73>219 54>21A 74>21B 327: 43>C7 63>E7 47>122 67>123 4B>136",
    "6B>137 4C>13B 6C>13C 4E>145 6E>146 52>156 72>157 53>15E 73>15F 54>162 74>163 45>228 65>229",
    "44>1E10 64>1E11 48>1E28 68>1E29 328: 41>104 61>105 45>118 65>119 49>12E 69>12F 55>172 75>173",
    "4F>1EA 6F>1EB 32D: 44>1E12 64>1E13 45>1E18 65>1E19 4C>1E3C 6C>1E3D 4E>1E4A 6E>1E4B 54>1E70",
    "74>1E71 55>1E76 75>1E77 32E: 48>1E2A 68>1E2B 330: 45>1E1A 65>1E1B 49>1E2C 69>1E2D 55>1E74",
    "75>1E75 331: 42>1E06 62>1E07 44>1E0E 64>1E0F 4B>1E34 6B>1E35 4C>1E3A 6C>1E3B 4E>1E48 6E>1E49",
    "52>1E5E 72>1E5F 54>1E6E 74>1E6F 5A>1E94 7A>1E95 68>1E96 342: 1F00>1F06 1F01>1F07 1F08>1F0E",
    "1F09>1F0F 1F20>1F26 1F21>1F27 1F28>1F2E 1F29>1F2F 1F30>1F36 1F31>1F37 1F38>1F3E 1F39>1F3F",
    "1F50>1F56 1F51>1F57 1F59>1F5F 1F60>1F66 1F61>1F67 1F68>1F6E 1F69>1F6F 3B1>1FB6 3B7>1FC6",
    "3B9>1FD6 3CA>1FD7 3C5>1FE6 3CB>1FE7 3C9>1FF6 345: 1F00>1F80 1F01>1F81 1F02>1F82 1F03>1F83",
    "1F04>1F84 1F05>1F85 1F06>1F86 1F07>1F87 1F08>1F88 1F09>1F89 1F0A>1F8A 1F0B>1F8B 1F0C>1F8C",
    "1F0D>1F8D 1F0E>1F8E 1F0F>1F8F 1F20>1F90 1F21>1F91 1F22>1F92 1F23>1F93 1F24>1F94 1F25>1F95",
    "1F26>1F96 1F27>1F97 1F28>1F98 1F29>1F99 1F2A>1F9A 1F2B>1F9B 1F2C>1F9C 1F2D>1F9D 1F2E>1F9E",
    "1F2F>1F9F 1F60>1FA0 1F61>1FA1 1F62>1FA2 1F63>1FA3 1F64>1FA4 1F65>1FA5 1F66>1FA6 1F67>1FA7",
    "1F68>1FA8 1F69>1FA9 1F6A>1FAA 1F6B>1FAB 1F6C>1FAC 1F6D>1FAD 1F6E>1FAE 1F6F>1FAF 1F70>1FB2",
    "3B1>1FB3 3AC>1FB4 1FB6>1FB7 391>1FBC 1F74>1FC2 3B7>1FC3 3AE>1FC4 1FC6>1FC7 397>1FCC",
    "1F7C>1FF2 3C9>1FF3 3CE>1FF4 1FF6>1FF7 3A9>1FFC 653: 627>622 654: 627>623 648>624 64A>626",
    "6D5>6C0 6C1>6C2 6D2>6D3 655: 627>625 93C: 928>929 930>931 933>934 9BE: 9C7>9CB 9D7: 9C7>9CC",
    "B3E: B47>B4B B56: B47>B48 B57: B47>B4C BBE: BC6>BCA BC7>BCB BD7: B92>B94 BC6>BCC C56:",
    "C46>C48 CC2: CC6>CCA CD5: CBF>CC0 CC6>CC7 CCA>CCB CD6: CC6>CC8 D3E: D46>D4A D47>D4B D57:",
    "D46>D4C DCA: DD9>DDA DDC>DDD DCF: DD9>DDC DDF: DD9>DDE 102E: 1025>1026 1B35: 1B05>1B06",
    "1B07>1B08 1B09>1B0A 1B0B>1B0C 1B0D>1B0E 1B11>1B12 1B3A>1B3B 1B3C>1B3D 1B3E>1B40 1B3F>1B41",
    "1B42>1B43 3099: 304B>304C 304D>304E 304F>3050 3051>3052 3053>3054 3055>3056 3057>3058",
    "3059>305A 305B>305C 305D>305E 305F>3060 3061>3062 3064>3065 3066>3067 3068>3069 306F>3070",
    "3072>3073 3075>3076 3078>3079 307B>307C 3046>3094 309D>309E 30AB>30AC 30AD>30AE 30AF>30B0",
    "30B1>30B2 30B3>30B4 30B5>30B6 30B7>30B8 30B9>30BA 30BB>30BC 30BD>30BE 30BF>30C0 30C1>30C2",
    "30C4>30C5 30C6>30C7 30C8>30C9 30CF>30D0 30D2>30D3 30D5>30D6 30D8>30D9 30DB>30DC 30A6>30F4",
    "30EF>30F7 30F0>30F8 30F1>30F9 30F2>30FA 30FD>30FE 309A: 306F>3071 3072>3074 3075>3077",
    "3078>307A 307B>307D 30CF>30D1 30D2>30D4 30D5>30D7 30D8>30DA 30DB>30DD 110BA: 11099>1109A",
    "1109B>1109C 110A5>110AB 11127: 11131>1112E 11132>1112F 1133E: 11347>1134B 11357: 11347>1134C",
    "114B0: 114B9>114BC 114BA: 114B9>114BB 114BD: 114B9>114BE 115AF: 115B8>115BA 115B9>115BB",
    "11930: 11935>11938"]

/-- Characters with another spelling: `first>` and the spellings of the code points from `first` on;
`a-b` stands for one code point each, and `+` joins those of a longer spelling. -/
def spellings : List String :=
  ["AA> 61 B5> 3BC BA> 6F 132> 49+4A 69+6A 13F> 4C+B7 6C+B7 149> 2BC+6E 17F> 73 1C4> 44+5A+30C",
    "44+7A+30C 64+7A+30C 4C+4A 4C+6A 6C+6A 4E+4A 4E+6A 6E+6A 1F1> 44+5A 44+7A 64+7A 2B0> 68 266",
    "6A 72 279 27B 281 77 79 2E0> 263 6C 73 78 295 340> 300-301 343> 313 308+301 374> 2B9 387> B7",
    "3D0> 3B2 3B8 3A5 3D5> 3C6 3C0 3F0> 3BA 3C1-3C2 3F4> 398 3B5 3F9> 3A3 587> 565+582 675>",
    "627+674 648+674 6C7+674 64A+674 958> 915+93C 916+93C 917+93C 91C+93C 921+93C 922+93C 92B+93C",
    "92F+93C 9DC> 9A1+9BC 9A2+9BC 9DF> 9AF+9BC A33> A32+A3C A36> A38+A3C A59> A16+A3C A17+A3C",
    "A1C+A3C A5E> A2B+A3C B5C> B21+B3C B22+B3C E33> E4D+E32 EB3> ECD+EB2 EDC> EAB+E99 EAB+EA1",
    "F43> F42+FB7 F4D> F4C+FB7 F52> F51+FB7 F57> F56+FB7 F5C> F5B+FB7 F69> F40+FB5 F73> F71+F72",
    "F75> F71+F74 FB2+F80 FB2+F71+F80 FB3+F80 FB3+F71+F80 F81> F71+F80 F93> F92+FB7 F9D> F9C+FB7",
    "FA2> FA1+FB7 FA7> FA6+FB7 FAC> FAB+FB7 FB9> F90+FB5 10FC> 10DC 1D2C> 41 C6 42 1D30> 44-45",
    "18E 47-4E 1D3C> 4F 222 50 52 54-55 57 61 250-251 1D02 62 64-65 259 25B-25C 67 1D4F> 6B 6D",
    "14B 6F 254 1D16-1D17 70 74-75 1D1D 26F 76 1D25 3B2-3B4 3C6-3C7 69 72 75-76 3B2-3B3 3C1",
    "3C6-3C7 1D78> 43D 1D9B> 252 63 255 F0 25C 66 25F 261 265 268-26A 1D7B 29D 26D 1D85 29F 271",
    "270 272-275 278 282-283 1AB 289-28A 1D1C 28B-28C 7A 290-292 3B8 1E9A> 61+2BE 1F71> 3B1+301",
    "1F73> 3B5+301 1F75> 3B7+301 1F77> 3B9+301 1F79> 3BF+301 1F7B> 3C5+301 1F7D> 3C9+301 1FBB>",
    "391+301 1FBE> 3B9 1FC9> 395+301 1FCB> 397+301 1FD3> 3B9+308+301 1FDB> 399+301 1FE3>",
    "3C5+308+301 1FEB> 3A5+301 1FF9> 39F+301 1FFB> 3A9+301 2071> 69 207F> 6E 2090> 61 65 6F 78",
    "259 68 6B-6E 70 73-74 2102> 43 2107> 190 210A> 67 48 48 48 68 127 49 49 4C 6C 2115> 4E 2119>",
    "50-52 52 52 2124> 5A 2126> 3A9 2128> 5A 212A> 4B 41+30A 42-43 212F> 65 45-46 2133> 4D 6F",
    "5D0-5D3 69 213C> 3C0 3B3 393 3A0 2145> 44 64-65 69-6A 2160> 49 49+49 49+49+49 49+56 56 56+49",
    "56+49+49 56+49+49+49 49+58 58 58+49 58+49+49 4C 43-44 4D 69 69+69 69+69+69 69+76 76 76+69",
    "76+69+69 76+69+69+69 69+78 78 78+69 78+69+69 6C 63-64 6D 2C7C> 6A 56 2D6F> 2D61 3038> 5341",
    "5344-5345 309F> 3088+308A 30FF> 30B3+30C8 3131> 1100-1101 11AA 1102 11AC-11AD 1103-1105",
    "11B0-11B5 111A 1106-1108 1121 1109-1112 1161-1175 1160 1114-1115 11C7-11C8 11CC 11CE 11D3",
    "11D7 11D9 111C 11DD 11DF 111D-111E 1120 1122-1123 1127 1129 112B-112F 1132 1136 1140 1147",
    "114C 11F1-11F2 1157-1159 1184-1185 1188 1191-1192 1194 119E 11A1 A69C> 44A 44C A770> A76F",
    "A7F2> 43 46 51 A7F8> 126 153 AB5C> A727 AB37 26B AB52 AB69> 28D F900> 8C48 66F4 8ECA 8CC8",
    "6ED1 4E32 53E5 9F9C 9F9C 5951 91D1 5587 5948 61F6 7669 7F85 863F 87BA 88F8 908F 6A02 6D1B",
    "70D9 73DE 843D 916A 99F1 4E82 5375 6B04 721B 862D 9E1E 5D50 6FEB 85CD 8964 62C9 81D8 881F",
    "5ECA 6717 6D6A 72FC 90CE 4F86 51B7 52DE 64C4 6AD3 7210 76E7 8001 8606 865C 8DEF 9732 9B6F",
    "9DFA 788C 797F 7DA0 83C9 9304 9E7F 8AD6 58DF 5F04 7C60 807E 7262 78CA 8CC2 96F7 58D8 5C62",
    "6A13 6DDA 6F0F 7D2F 7E37 964B 52D2 808B 51DC 51CC 7A1C 7DBE 83F1 9675 8B80 62CF 6A02 8AFE",
    "4E39 5BE7 6012 7387 7570 5317 78FB 4FBF 5FA9 4E0D 6CCC 6578 7D22 53C3 585E 7701 8449 8AAA",
    "6BBA 8FB0 6C88 62FE 82E5 63A0 7565 4EAE 5169 51C9 6881 7CE7 826F 8AD2 91CF 52F5 5442 5973",
    "5EEC 65C5 6FFE 792A 95AD 9A6A 9E97 9ECE 529B 66C6 6B77 8F62 5E74 6190 6200 649A 6F23 7149",
    "7489 79CA 7DF4 806F 8F26 84EE 9023 934A 5217 52A3 54BD 70C8 88C2 8AAA 5EC9 5FF5 637B 6BAE",
    "7C3E 7375 4EE4 56F9 5BE7 5DBA 601C 73B2 7469 7F9A 8046 9234 96F6 9748 9818 4F8B 79AE 91B4",
    "96B8 60E1 4E86 50DA 5BEE 5C3F 6599 6A02 71CE 7642 84FC 907C 9F8D 6688 962E 5289 677B 67F3",
    "6D41 6E9C 7409 7559 786B 7D10 985E 516D 622E 9678 502B 5D19 6DEA 8F2A 5F8B 6144 6817 7387",
    "9686 5229 540F 5C65 6613 674E 68A8 6CE5 7406 75E2 7F79 88CF 88E1 91CC 96E2 533F 6EBA 541D",
    "71D0 7498 85FA 96A3 9C57 9E9F 6797 6DCB 81E8 7ACB 7B20 7C92 72C0 7099 8B58 4EC0 8336 523A",
    "5207 5EA6 62D3 7CD6 5B85 6D1E 66B4 8F3B 884C 964D 898B 5ED3 5140 55C0 FA10> 585A FA12> 6674",
    "FA15> 51DE 732A 76CA 793C 795E 7965 798F 9756 7CBE 7FBD FA20> 8612 FA22> 8AF8 FA25> 9038",
    "90FD FA2A> 98EF 98FC 9928 9DB4 90DE 96B7 4FAE 50E7 514D 52C9 52E4 5351 559D 5606 5668 5840",
    "58A8 5C64 5C6E 6094 6168 618E 61F2 654F 65E2 6691 6885 6D77 6E1A 6F22 716E 722B 7422 7891",
    "793E 7949 7948 7950 7956 795D 798D-798E 7A40 7A81 7BC0 7DF4 7E09 7E41 7F72 8005 81ED 8279",
    "8279 8457 8910 8996 8B01 8B39 8CD3 8D08 8FB6 9038 96E3 97FF 983B 6075 242EE 8218 FA70> 4E26",
    "51B5 5168 4F80 5145 5180 52C7 52FA 559D 5555 5599 55E2 585A 58B3 5944 5954 5A62 5B28 5ED2",
    "5ED9 5F69 5FAD 60D8 614E 6108 618E 6160 61F2 6234 63C4 641C 6452 6556 6674 6717 671B 6756",
    "6B79 6BBA 6D41 6EDB 6ECB 6F22 701E 716E 77A7 7235 72AF 732A 7471 7506 753B 761D 761F 76CA",
    "76DB 76F4 774A 7740 78CC 7AB1 7BC0 7C7B 7D5B 7DF4 7F3E 8005 8352 83EF 8779 8941 8986 8996",
    "8ABF 8AF8 8ACB 8B01 8AFE 8AED 8B39 8B8A 8D08 8F38 9072 9199 9276 967C 96E3 9756 97DB 97FF",
    "980B 983B 9B12 9F9C 2284A 22844 233D5 3B9D 4018 4039 25249 25CD0 27ED3 9F43 9F8E FB00> 66+66",
    "66+69 66+6C 66+66+69 66+66+6C 73+74 73+74 FB13> 574+576 574+565 574+56B 57E+576 574+56D",
    "FB1D> 5D9+5B4 FB1F> 5F2+5B7 5E2 5D0 5D3-5D4 5DB-5DD 5E8 5EA FB2A> 5E9+5C1 5E9+5C2",
    "5E9+5BC+5C1 5E9+5BC+5C2 5D0+5B7 5D0+5B8 5D0+5BC 5D1+5BC 5D2+5BC 5D3+5BC 5D4+5BC 5D5+5BC",
    "5D6+5BC FB38> 5D8+5BC 5D9+5BC 5DA+5BC 5DB+5BC 5DC+5BC FB3E> 5DE+5BC FB40> 5E0+5BC 5E1+5BC",
    "FB43> 5E3+5BC 5E4+5BC FB46> 5E6+5BC 5E7+5BC 5E8+5BC 5E9+5BC 5EA+5BC 5D5+5B9 5D1+5BF 5DB+5BF",
    "5E4+5BF 5D0+5DC 671 671 67B 67B 67B 67B 67E 67E 67E 67E 680 680 680 680 67A 67A 67A 67A 67F",
    "67F 67F 67F 679 679 679 679 6A4 6A4 6A4 6A4 6A6 6A6 6A6 6A6 684 684 684 684 683 683 683 683",
    "686 686 686 686-687 687 687 687 68D 68D 68C 68C 68E 68E 688 688 698 698 691 691 6A9 6A9 6A9",
    "6A9 6AF 6AF 6AF 6AF 6B3 6B3 6B3 6B3 6B1 6B1 6B1 6B1 6BA 6BA-6BB 6BB 6BB 6BB 6D5+654 6D5+654",
    "6C1 6C1 6C1 6C1 6BE 6BE 6BE 6BE 6D2 6D2 6D2+654 6D2+654 FBD3> 6AD 6AD 6AD 6AD 6C7 6C7 6C6",
    "6C6 6C8 6C8 6C7+674 6CB 6CB 6C5 6C5 6C9 6C9 6D0 6D0 6D0 6D0 649 649 64A+654+627 64A+654+627",
    "64A+654+6D5 64A+654+6D5 64A+654+648 64A+654+648 64A+654+6C7 64A+654+6C7 64A+654+6C6",
    "64A+654+6C6 64A+654+6C8 64A+654+6C8 64A+654+6D0 64A+654+6D0 64A+654+6D0 64A+654+649",
    "64A+654+649 64A+654+649 6CC 6CC 6CC 6CC 64A+654+62C 64A+654+62D 64A+654+645 64A+654+649",
    "64A+654+64A 628+62C 628+62D 628+62E 628+645 628+649 628+64A 62A+62C 62A+62D 62A+62E 62A+645",
    "62A+649 62A+64A 62B+62C 62B+645 62B+649 62B+64A 62C+62D 62C+645 62D+62C 62D+645 62E+62C",
    "62E+62D 62E+645 633+62C 633+62D 633+62E 633+645 635+62D 635+645 636+62C 636+62D 636+62E",
    "636+645 637+62D 637+645 638+645 639+62C 639+645 63A+62C 63A+645 641+62C 641+62D 641+62E",
    "641+645 641+649 641+64A 642+62D 642+645 642+649 642+64A 643+627 643+62C 643+62D 643+62E",
    "643+644 643+645 643+649 643+64A 644+62C 644+62D 644+62E 644+645 644+649 644+64A 645+62C",
    "645+62D 645+62E 645+645 645+649 645+64A 646+62C 646+62D 646+62E 646+645 646+649 646+64A",
    "647+62C 647+645 647+649 647+64A 64A+62C 64A+62D 64A+62E 64A+645 64A+649 64A+64A 630+670",
    "631+670 649+670 FC64> 64A+654+631 64A+654+632 64A+654+645 64A+654+646 64A+654+649",
    "64A+654+64A 628+631 628+632 628+645 628+646 628+649 628+64A 62A+631 62A+632 62A+645 62A+646",
    "62A+649 62A+64A 62B+631 62B+632 62B+645 62B+646 62B+649 62B+64A 641+649 641+64A 642+649",
    "642+64A 643+627 643+644 643+645 643+649 643+64A 644+645 644+649 644+64A 645+627 645+645",
    "646+631 646+632 646+645 646+646 646+649 646+64A 649+670 64A+631 64A+632 64A+645 64A+646",
    "64A+649 64A+64A 64A+654+62C 64A+654+62D 64A+654+62E 64A+654+645 64A+654+647 628+62C 628+62D",
    "628+62E 628+645 628+647 62A+62C 62A+62D 62A+62E 62A+645 62A+647 62B+645 62C+62D 62C+645",
    "62D+62C 62D+645 62E+62C 62E+645 633+62C 633+62D 633+62E 633+645 635+62D 635+62E 635+645",
    "636+62C 636+62D 636+62E 636+645 637+62D 638+645 639+62C 639+645 63A+62C 63A+645 641+62C",
    "641+62D 641+62E 641+645 642+62D 642+645 643+62C 643+62D 643+62E 643+644 643+645 644+62C",
    "644+62D 644+62E 644+645 644+647 645+62C 645+62D 645+62E 645+645 646+62C 646+62D 646+62E",
    "646+645 646+647 647+62C 647+645 647+670 64A+62C 64A+62D 64A+62E 64A+645 64A+647 64A+654+645",
    "64A+654+647 628+645 628+647 62A+645 62A+647 62B+645 62B+647 633+645 633+647 634+645 634+647",
    "643+644 643+645 644+645 646+645 646+647 64A+645 64A+647 640+64E+651 640+64F+651 640+650+651",
    "637+649 637+64A 639+649 639+64A 63A+649 63A+64A 633+649 633+64A 634+649 634+64A 62D+649",
    "62D+64A 62C+649 62C+64A 62E+649 62E+64A 635+649 635+64A 636+649 636+64A 634+62C 634+62D",
    "634+62E 634+645 634+631 633+631 635+631 636+631 637+649 637+64A 639+649 639+64A 63A+649",
    "63A+64A 633+649 633+64A 634+649 634+64A 62D+649 62D+64A 62C+649 62C+64A 62E+649 62E+64A",
    "635+649 635+64A 636+649 636+64A 634+62C 634+62D 634+62E 634+645 634+631 633+631 635+631",
    "636+631 634+62C 634+62D 634+62E 634+645 633+647 634+647 637+645 633+62C 633+62D 633+62E",
    "634+62C 634+62D 634+62E 637+645 638+645 627+64B 627+64B FD50> 62A+62C+645 62A+62D+62C",
    "62A+62D+62C 62A+62D+645 62A+62E+645 62A+645+62C 62A+645+62D 62A+645+62E 62C+645+62D",
    "62C+645+62D 62D+645+64A 62D+645+649 633+62D+62C 633+62C+62D 633+62C+649 633+645+62D",
    "633+645+62D 633+645+62C 633+645+645 633+645+645 635+62D+62D 635+62D+62D 635+645+645",
    "634+62D+645 634+62D+645 634+62C+64A 634+645+62E 634+645+62E 634+645+645 634+645+645",
    "636+62D+649 636+62E+645 636+62E+645 637+645+62D 637+645+62D 637+645+645 637+645+64A",
    "639+62C+645 639+645+645 639+645+645 639+645+649 63A+645+645 63A+645+64A 63A+645+649",
    "641+62E+645 641+62E+645 642+645+62D 642+645+645 644+62D+645 644+62D+64A 644+62D+649",
    "644+62C+62C 644+62C+62C 644+62E+645 644+62E+645 644+645+62D 644+645+62D 645+62D+62C",
    "645+62D+645 645+62D+64A 645+62C+62D 645+62C+645 645+62E+62C 645+62E+645 FD92> 645+62C+62E",
    "647+645+62C 647+645+645 646+62D+645 646+62D+649 646+62C+645 646+62C+645 646+62C+649",
    "646+645+64A 646+645+649 64A+645+645 64A+645+645 628+62E+64A 62A+62C+64A 62A+62C+649",
    "62A+62E+64A 62A+62E+649 62A+645+64A 62A+645+649 62C+645+64A 62C+62D+649 62C+645+649",
    "633+62E+649 635+62D+64A 634+62D+64A 636+62D+64A 644+62C+64A 644+645+64A 64A+62D+64A",
    "64A+62C+64A 64A+645+64A 645+645+64A 642+645+64A 646+62D+64A 642+645+62D 644+62D+645",
    "639+645+64A 643+645+64A 646+62C+62D 645+62E+64A 644+62C+645 643+645+645 644+62C+645",
    "646+62C+62D 62C+62D+64A 62D+62C+64A 645+62C+64A 641+645+64A 628+62D+64A 643+645+645",
    "639+62C+645 635+645+645 633+62E+64A 646+62C+64A FDF0> 635+644+6D2 642+644+6D2",
    "627+644+644+647 627+643+628+631 645+62D+645+62F 635+644+639+645 631+633+648+644",
    "639+644+64A+647 648+633+644+645 635+644+649 FE33> 5F 5F FE4D> 5F 5F 5F FE71> 640+64B FE77>",
    "640+64E FE79> 640+64F FE7B> 640+650 FE7D> 640+651 FE7F> 640+652 621 627+653 627+653 627+654",
    "627+654 648+654 648+654 627+655 627+655 64A+654 64A+654 64A+654 64A+654 627 627-628 628 628",
    "628-629 629-62A 62A 62A 62A-62B 62B 62B 62B-62C 62C 62C 62C-62D 62D 62D 62D-62E 62E 62E",
    "62E-62F 62F-630 630-631 631-632 632-633 633 633 633-634 634 634 634-635 635 635 635-636 636",
    "636 636-637 637 637 637-638 638 638 638-639 639 639 639-63A 63A 63A 63A 641 641 641 641-642",
    "642 642 642-643 643 643 643-644 644 644 644-645 645 645 645-646 646 646 646-647 647 647",
    "647-648 648-649 649-64A 64A 64A 64A 644+627+653 644+627+653 644+627+654 644+627+654",
    "644+627+655 644+627+655 644+627 644+627 FF10> 30-39 FF21> 41-5A FF3F> 5F FF41> 61-7A FF66>",
    "30F2 30A1 30A3 30A5 30A7 30A9 30E3 30E5 30E7 30C3 30FC 30A2 30A4 30A6 30A8 30AA-30AB 30AD",
    "30AF 30B1 30B3 30B5 30B7 30B9 30BB 30BD 30BF 30C1 30C4 30C6 30C8 30CA-30CF 30D2 30D5 30D8",
    "30DB 30DE-30E2 30E4 30E6 30E8-30ED 30EF 30F3 3099-309A 1160 1100-1101 11AA 1102 11AC-11AD",
    "1103-1105 11B0-11B5 111A 1106-1108 1121 1109-1112 FFC2> 1161-1166 FFCA> 1167-116C FFD2>",
    "116D-1172 FFDA> 1173-1175 10781> 2D0-2D1 E6 299 253 10787> 2A3 AB66 2A5 2A4 256-257 1D91 258",
    "25E 2A9 264 262 260 29B 127 29C 267 284 2AA-2AB 26C 1DF04 A78E 26E 1DF05 28E 1DF06 F8",
    "276-277 71 27A 1DF08 27D-27E 280 2A8 2A6 AB67 2A7 288 2C71 107B2> 28F 2A1-2A2 298 1C0-1C2",
    "1DF0A 1DF1E 1D400> 41-5A 61-7A 41-5A 61-67 1D456> 69-7A 41-5A 61-7A 41 1D49E> 43-44 1D4A2>",
    "47 1D4A5> 4A-4B 1D4A9> 4E-51 1D4AE> 53-5A 61-64 1D4BB> 66 1D4BD> 68-6E 1D4C5> 70-7A 41-5A",
    "61-7A 41-42 1D507> 44-47 1D50D> 4A-51 1D516> 53-59 1D51E> 61-7A 41-42 1D53B> 44-47 1D540>",
    "49-4D 1D546> 4F 1D54A> 53-59 1D552> 61-7A 41-5A 61-7A 41-5A 61-7A 41-5A 61-7A 41-5A 61-7A",
    "41-5A 61-7A 41-5A 61-7A 131 237 1D6A8> 391-3A1 398 3A3-3A9 1D6C2> 3B1-3C9 1D6DC> 3B5 3B8 3BA",
    "3C6 3C1 3C0 391-3A1 398 3A3-3A9 1D6FC> 3B1-3C9 1D716> 3B5 3B8 3BA 3C6 3C1 3C0 391-3A1 398",
    "3A3-3A9 1D736> 3B1-3C9 1D750> 3B5 3B8 3BA 3C6 3C1 3C0 391-3A1 398 3A3-3A9 1D770> 3B1-3C9",
    "1D78A> 3B5 3B8 3BA 3C6 3C1 3C0 391-3A1 398 3A3-3A9 1D7AA> 3B1-3C9 1D7C4> 3B5 3B8 3BA 3C6 3C1",
    "3C0 3DC-3DD 1D7CE> 30-39 30-39 30-39 30-39 30-39 1EE00> 627-628 62C 62F 1EE05> 648 632 62D",
    "637 64A 643-646 633 639 641 635 642 631 634 62A-62B 62E 630 636 638 63A 66E 6BA 6A1 66F",
    "1EE21> 628 62C 1EE24> 647 1EE27> 62D 1EE29> 64A 643-646 633 639 641 635 642 1EE34> 634",
    "62A-62B 62E 1EE39> 636 1EE3B> 63A 1EE42> 62C 1EE47> 62D 1EE49> 64A 1EE4B> 644 1EE4D> 646 633",
    "639 1EE51> 635 642 1EE54> 634 1EE57> 62E 1EE59> 636 1EE5B> 63A 1EE5D> 6BA 1EE5F> 66F 1EE61>",
    "628 62C 1EE64> 647 1EE67> 62D 637 64A 643 1EE6C> 645-646 633 639 641 635 642 1EE74> 634",
    "62A-62B 62E 1EE79> 636 638 63A 66E 1EE7E> 6A1 1EE80> 627-628 62C 62F 647-648 632 62D 637 64A",
    "1EE8B> 644-646 633 639 641 635 642 631 634 62A-62B 62E 630 636 638 63A 1EEA1> 628 62C 62F",
    "1EEA5> 648 632 62D 637 64A 1EEAB> 644-646 633 639 641 635 642 631 634 62A-62B 62E 630 636",
    "638 63A 1FBF0> 30-39 2F800> 4E3D 4E38 4E41 20122 4F60 4FAE 4FBB 5002 507A 5099 50E7 50CF",
    "349E 2063A 514D 5154 5164 5177 2051C 34B9 5167 518D 2054B 5197 51A4 4ECC 51AC 51B5 291DF",
    "51F5 5203 34DF 523B 5246 5272 5277 3515 52C7 52C9 52E4 52FA 5305-5306 5317 5349 5351 535A",
    "5373 537D 537F 537F 537F 20A2C 7070 53CA 53DF 20B63 53EB 53F1 5406 549E 5438 5448 5468 54A2",
    "54F6 5510 5553 5563 5584 5584 5599 55AB 55B3 55C2 5716 5606 5717 5651 5674 5207 58EE 57CE",
    "57F4 580D 578B 5832 5831 58AC 214E4 58F2 58F7 5906 591A 5922 5962 216A8 216EA 59EC 5A1B 5A27",
    "59D8 5A66 36EE 36FC 5B08 5B3E 5B3E 219C8 5BC3 5BD8 5BE7 5BF3 21B18 5BFF 5C06 5F53 5C22 3781",
    "5C60 5C6E 5CC0 5C8D 21DE4 5D43 21DE6 5D6E 5D6B 5D7C 5DE1-5DE2 382F 5DFD 5E28 5E3D 5E69 3862",
    "22183 387C 5EB0 5EB3 5EB6 5ECA 2A392 5EFE 22331 22331 8201 5F22 5F22 38C7 232B8 261DA 5F62",
    "5F6B 38E3 5F9A 5FCD 5FD7 5FF9 6081 393A 391C 6094 226D4 60C7 6148 614C 614E 614C 617A 618E",
    "61B2 61A4 61AF 61DE 61F2 61F6 6210 621B 625D 62B1 62D4 6350 22B0C 633D 62FC 6368 6383 63E4",
    "22BF1 6422 63C5 63A9 3A2E 6469 647E 649D 6477 3A6C 654F 656C 2300A 65E3 66F8 6649 3B19 6691",
    "3B08 3AE4 5192 5195 6700 669C 80AD 43D9 6717 671B 6721 675E 6753 233C3 3B49 67FA 6785 6852",
    "6885 2346D 688E 681F 6914 3B9D 6942 69A3 69EA 6AA8 236A3 6ADB 3C18 6B21 238A7 6B54 3C4E 6B72",
    "6B9F 6BBA-6BBB 23A8D 21D0B 23AFA 6C4E 23CBC 6CBF 6CCD 6C67 6D16 6D3E 6D77 6D41 6D69 6D78",
    "6D85 23D1E 6D34 6E2F 6E6E 3D33 6ECB 6EC7 23ED1 6DF9 6F6E 23F5E 23F8E 6FC6 7039 701E 701B",
    "3D96 704A 707D 7077 70AD 20525 7145 24263 719C 243AB 7228 7235 7250 24608 7280 7295 24735",
    "24814 737A 738B 3EAC 73A5 3EB8 3EB8 7447 745C 7471 7485 74CA 3F1B 7524 24C36 753E 24C92 7570",
    "2219F 7610 24FA1 24FB8 25044 3FFC 4008 76F4 250F3 250F2 25119 25133 771E-771F 771F 774A 4039",
    "778B 4046 4096 2541D 784E 788C 78CC 40E3 25626 7956 2569A 256C5 798F 79EB 412F 7A40 7A4A",
    "7A4F 2597C 25AA7 25AA7 7AEE 4202 25BAB 7BC6 7BC9 4227 25C80 7CD2 42A0 7CE8 7CE3 7D00 25F86",
    "7D63 4301 7DC7 7E02 7E45 4334 26228 26247 4359 262D9 7F7A 2633E 7F95 7FFA 8005 264DA 26523",
    "8060 265A8 8070 2335F 43D5 80B2 8103 440B 813E 5AB5 267A7 267B5 23393 2339C 8201 8204 8F9E",
    "446B 8291 828B 829D 52B3 82B1 82B3 82BD 82E6 26B3C 82E5 831D 8363 83AD 8323 83BD 83E7 8457",
    "8353 83CA 83CC 83DC 26C36 26D6B 26CD5 452B 84F1 84F3 8516 273CA 8564 26F2C 455D 4561 26FB1",
    "270D2 456B 8650 865C 8667 8669 86A9 8688 870E 86E2 8779 8728 876B 8786 45D7 87E1 8801 45F9",
    "8860 8863 27667 88D7 88DE 4635 88FA 34BB 278AE 27966 46BE 46C7 8AA0 8AED 8B8A 8C55 27CA8",
    "8CAB 8CC1 8D1B 8D77 27F2F 20804 8DCB 8DBC 8DF0 208DE 8ED4 8F38 285D2 285ED 9094 90F1 9111",
    "2872E 911B 9238 92D7-92D8 927C 93F9 9415 28BFA 958B 4995 95B7 28D77 49E6 96C3 5DB2 9723",
    "29145 2921A 4A6E 4A76 97E0 2940A 4AB2 29496 980B 980B 9829 295B6 98E2 4B33 9929 99A7 99C2",
    "99FE 4BCE 29B30 9B12 9C40 9CFD 4CCE 4CED 9D67 2A0CE 4CF8 2A105 2A20E 2A291 9EBB 4D56 9EF9",
    "9EFE 9F05 9F0F 9F16 9F3B 2A600"]

/-- Marks by the place they take: a place, then the ranges of its marks. -/
def markClasses : List String :=
  ["1: 334-338 1CD4 1CE2-1CE8 20D2-20D3 20D8-20DA 20E5-20E6 20EA-20EB 10A39 16AF0-16AF4 1BC9E",
    "1D167-1D169 6: 16FF0-16FF1 7: 93C 9BC A3C ABC B3C C3C CBC 1037 1B34 1BE6 1C37 A9B3 110BA",
    "11173 111CA 11236 112E9 1133B-1133C 11446 114C3 115C0 116B7 1183A 11943 11D42 1E94A 8:",
    "3099-309A 9: 94D 9CD A4D ACD B4D BCD C4D CCD D3B-D3C D4D DCA E3A EBA F84 1039-103A 1714-1715",
    "1734 17D2 1A60 1B44 1BAA-1BAB 1BF2-1BF3 2D7F A806 A82C A8C4 A953 A9C0 AAF6 ABED 10A3F 11046",
    "11070 1107F 110B9 11133-11134 111C0 11235 112EA 1134D 11442 114C2 115BF 1163F 116B6 1172B",
    "11839 1193D-1193E 119E0 11A34 11A47 11A99 11C3F 11D44-11D45 11D97 A: 5B0 B: 5B1 C: 5B2 D:",
    "5B3 E: 5B4 F: 5B5 10: 5B6 11: 5B7 12: 5B8 5C7 13: 5B9-5BA 14: 5BB 15: 5BC 16: 5BD 17: 5BF",
    "18: 5C1 19: 5C2 1A: FB1E 1B: 64B 8F0 1C: 64C 8F1 1D: 64D 8F2 1E: 618 64E 1F: 619 64F 20: 61A",
    "650 21: 651 22: 652 23: 670 24: 711 54: C55 5B: C56 67: E38-E39 6B: E48-E4B 76: EB8-EB9 7A:",
    "EC8-ECB 81: F71 82: F72 F7A-F7D F80 84: F74 CA: 321-322 327-328 1DD0 D6: 1DCE D8: 31B F39",
    "1D165-1D166 1D16E-1D172 DA: 1DFA 302A DC: 316-319 31C-320 323-326 329-333 339-33C 347-349",
    "34D-34E 353-356 359-35A 591 596 59B 5A2-5A7 5AA 5C5 655-656 65C 65F 6E3 6EA 6ED 731 734",
    "737-739 73B-73C 73E 742 744 746 748 7F2 7FD 859-85B 899-89B 8CF-8D3 8E3 8E6 8E9 8ED-8EF 8F6",
    "8F9-8FA 952 F18-F19 F35 F37 FC6 108D 193B 1A18 1A7F 1AB5-1ABA 1ABD 1ABF-1AC0 1AC3-1AC4 1ACA",
    "1B6C 1CD5-1CD9 1CDC-1CDF 1CED 1DC2 1DCA 1DCF 1DF9 1DFD 1DFF 20E8 20EC-20EF A92B-A92D AAB4",
    "FE27-FE2D 101FD 102E0 10A0D 10A3A 10AE6 10F46-10F47 10F4B 10F4D-10F50 10F83 10F85",
    "1D17B-1D182 1D18A-1D18B 1E8D0-1E8D6 DE: 59A 5AD 1939 302D E0: 302E-302F E2: 1D16D E4: 5AE",
    "18A9 1DF7-1DF8 302B E6: 300-314 33D-344 346 34A-34C 350-352 357 35B 363-36F 483-487 592-595",
    "597-599 59C-5A1 5A8-5A9 5AB-5AC 5AF 5C4 610-617 653-654 657-65B 65D-65E 6D6-6DC 6DF-6E2 6E4",
    "6E7-6E8 6EB-6EC 730 732-733 735-736 73A 73D 73F-741 743 745 747 749-74A 7EB-7F1 7F3 816-819",
    "81B-823 825-827 829-82D 898 89C-89F 8CA-8CE 8D4-8E1 8E4-8E5 8E7-8E8 8EA-8EC 8F3-8F5 8F7-8F8",
    "8FB-8FF 951 953-954 9FE F82-F83 F86-F87 135D-135F 17DD 193A 1A17 1A75-1A7C 1AB0-1AB4",
    "1ABB-1ABC 1AC1-1AC2 1AC5-1AC9 1ACB-1ACE 1B6B 1B6D-1B73 1CD0-1CD2 1CDA-1CDB 1CE0 1CF4",
    "1CF8-1CF9 1DC0-1DC1 1DC3-1DC9 1DCB-1DCC 1DD1-1DF5 1DFB 1DFE 20D0-20D1 20D4-20D7 20DB-20DC",
    "20E1 20E7 20E9 20F0 2CEF-2CF1 2DE0-2DFF A66F A674-A67D A69E-A69F A6F0-A6F1 A8E0-A8F1 AAB0",
    "AAB2-AAB3 AAB7-AAB8 AABE-AABF AAC1 FE20-FE26 FE2E-FE2F 10376-1037A 10A0F 10A38 10AE5",
    "10D24-10D27 10EAB-10EAC 10F48-10F4A 10F4C 10F82 10F84 11100-11102 11366-1136C 11370-11374",
    "1145E 16B30-16B36 1D185-1D189 1D1AA-1D1AD 1D242-1D244 1E000-1E006 1E008-1E018 1E01B-1E021",
    "1E023-1E024 1E026-1E02A 1E130-1E136 1E2AE 1E2EC-1E2EF 1E944-1E949 E8: 315 31A 358 1DF6 302C",
    "E9: 35C 35F 362 1DFC EA: 35D-35E 360-361 1DCD F0: 345"]

end DocAtlas.Text.NormalForm
