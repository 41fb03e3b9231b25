import PromptGraph.Text.Property

/-!
# Segmentation

What a character counts as where a text is cut into graphemes, words and sentences. Characters that
count as nothing special are in no set.
-/

namespace PromptGraph.Text

def graphemeBreaks : List NamedSet := [
  ⟨["cr"], [],
    ["d"],
    []⟩,
  ⟨["control", "cn"], ["Cc"],
    ["ad 61c 180e 200b 200e-200f 2028-202e 2060-206f feff fff0-fffb 13430-1343f 1bca0-1bca3",
     "1d173-1d17a e0000-e001f e0080-e00ff e01f0-e0fff"],
    ["a d"]⟩,
  ⟨["extend", "ex"], ["Mn", "Me"],
    ["9be 9d7 b3e b57 bbe bd7 cc0 cc2 cc7-cc8 cca-ccb cd5-cd6 d3e d57 dcf ddf 1715 1734 1b35",
     "1b3b 1b3d 1b43-1b44 1baa 1bf2-1bf3 200c 302e-302f a953 a9c0 ff9e-ff9f 111c0 11235 1133e",
     "1134d 11357 113b8 113c2 113c5 113c7-113c9 113cf 114b0 114bd 115af 116b6 11930 1193d 11f41",
     "16ff0-16ff1 1d165-1d166 1d16d-1d172 1f3fb-1f3ff e0020-e007f"],
    []⟩,
  ⟨["l"], [],
    ["1100-115f a960-a97c"],
    []⟩,
  ⟨["lf"], [],
    ["a"],
    []⟩,
  ⟨["lv"], [],
    ["ac00-d788/1c"],
    []⟩,
  ⟨["lvt"], [],
    ["ac00-d7a3"],
    ["ac00-d788/1c"]⟩,
  ⟨["prepend", "pp"], [],
    ["600-605 6dd 70f 890-891 8e2 d4e 110bd 110cd 111c2-111c3 113d1 1193f 11941 11a3a",
     "11a84-11a89 11d46 11f02"],
    []⟩,
  ⟨["regionalindicator", "ri"], [],
    ["1f1e6-1f1ff"],
    []⟩,
  ⟨["spacingmark", "sm"], ["Mc"],
    ["e33 eb3"],
    ["9be 9d7 b3e b57 bbe bd7 cc0 cc2 cc7-cc8 cca-ccb cd5-cd6 d3e d57 dcf ddf 102b-102c 1038",
     "1062-1064 1067-106d 1083 1087-108c 108f 109a-109c 1715 1734 1a61 1a63-1a64 1b35 1b3b 1b3d",
     "1b43-1b44 1baa 1bf2-1bf3 302e-302f a953 a9c0 aa7b aa7d 111c0 11235 1133e 1134d 11357 113b8",
     "113c2 113c5 113c7-113c9 113cf 114b0 114bd 115af 116b6 11720-11721 11930 1193d 11f41",
     "16ff0-16ff1 1d165-1d166 1d16d-1d172"]⟩,
  ⟨["t"], [],
    ["11a8-11ff d7cb-d7fb"],
    []⟩,
  ⟨["v"], [],
    ["1160-11a7 d7b0-d7c6 16d63 16d67-16d6a"],
    []⟩,
  ⟨["zwj"], [],
    ["200d"],
    []⟩]

def wordBreaks : List NamedSet := [
  ⟨["aletter", "le"], ["Lo", "Nl"],
    ["41-5a 61-7a b5 c0-d6 d8-f6 f8-1ba 1bc-1bf 1c4-293 295-2d7 2de-2ff 370-374 376-377 37a-37d",
     "37f 386 388-38a 38c 38e-3a1 3a3-3f5 3f7-481 48a-52f 531-556 559-55c 55e 560-588 58a 5f3",
     "640 6e5-6e6 70f 7f4-7f5 7fa 81a 824 828 8c9 971 10a0-10c5 10c7 10cd 10d0-10fa 10fc-10ff",
     "13a0-13f5 13f8-13fd 1843 1c78-1c7d 1c80-1c8a 1c90-1cba 1cbd-1cbf 1d00-1dbf 1e00-1f15",
     "1f18-1f1d 1f20-1f45 1f48-1f4d 1f50-1f57 1f59-1f5d/2 1f5f-1f7d 1f80-1fb4 1fb6-1fbc 1fbe",
     "1fc2-1fc4 1fc6-1fcc 1fd0-1fd3 1fd6-1fdb 1fe0-1fec 1ff2-1ff4 1ff6-1ffc 2071 207f 2090-209c",
     "2102 2107 210a-2113 2115 2119-211d 2124-2128/2 212a-212d 212f-2134 2139 213c-213f",
     "2145-2149 214e 2183-2184 24b6-24e9 2c00-2ce4 2ceb-2cee 2cf2-2cf3 2d00-2d25 2d27 2d2d 2d6f",
     "2e2f 3005 303b a015 a4f8-a4fd a60c a640-a66d a67f-a69d a708-a78e a790-a7cd a7d0-a7d1 a7d3",
     "a7d5-a7dc a7f2-a7f6 a7f8-a7fa a9cf aaf3-aaf4 ab30-ab69 ab70-abbf fb00-fb06 fb13-fb17",
     "ff21-ff3a ff41-ff5a 10400-1044f 104b0-104d3 104d8-104fb 10570-1057a 1057c-1058a",
     "1058c-10592 10594-10595 10597-105a1 105a3-105b1 105b3-105b9 105bb-105bc 10780-10785",
     "10787-107b0 107b2-107ba 10c80-10cb2 10cc0-10cf2 10d4e 10d50-10d65 10d6f-10d85 118a0-118df",
     "16b40-16b43 16d40-16d42 16d6b-16d6c 16e40-16e7f 16f93-16f9f 16fe0-16fe1 16fe3 1d400-1d454",
     "1d456-1d49c 1d49e-1d49f 1d4a2 1d4a5-1d4a6 1d4a9-1d4ac 1d4ae-1d4b9 1d4bb 1d4bd-1d4c3",
     "1d4c5-1d505 1d507-1d50a 1d50d-1d514 1d516-1d51c 1d51e-1d539 1d53b-1d53e 1d540-1d544 1d546",
     "1d54a-1d550 1d552-1d6a5 1d6a8-1d6c0 1d6c2-1d6da 1d6dc-1d6fa 1d6fc-1d714 1d716-1d734",
     "1d736-1d74e 1d750-1d76e 1d770-1d788 1d78a-1d7a8 1d7aa-1d7c2 1d7c4-1d7cb 1df00-1df09",
     "1df0b-1df1e 1df25-1df2a 1e030-1e06d 1e137-1e13d 1e4eb 1e900-1e943 1e94b 1f130-1f149",
     "1f150-1f169 1f170-1f189"],
    ["5d0-5ea 5ef-5f2 e01-e30 e32-e33 e40-e45 e81-e82 e84 e86-e8a e8c-ea3 ea5 ea7-eb0 eb2-eb3",
     "ebd ec0-ec4 edc-edf 1000-102a 103f 1050-1055 105a-105d 1061 1065-1066 106e-1070 1075-1081",
     "108e 1780-17b3 17dc 1950-196d 1970-1974 1980-19ab 19b0-19c9 1a20-1a54 3006-3007 3021-3029",
     "3038-303a 3041-3096 309f 30a1-30fa 30ff 31f0-31ff 3400-4dbf 4e00-9fff a9e0-a9e4 a9e7-a9ef",
     "a9fa-a9fe aa60-aa6f aa71-aa76 aa7a aa7e-aaaf aab1 aab5-aab6 aab9-aabd aac0 aac2 aadb-aadc",
     "f900-fa6d fa70-fad9 fb1d fb1f-fb28 fb2a-fb36 fb38-fb3c fb3e fb40-fb41 fb43-fb44 fb46-fb4f",
     "ff66-ff6f ff71-ff9d 11700-1171a 11740-11746 17000-187f7 18800-18cd5 18cff-18d08",
     "1b000-1b122 1b132 1b150-1b152 1b155 1b164-1b167 1b170-1b2fb 20000-2a6df 2a700-2b739",
     "2b740-2b81d 2b820-2cea1 2ceb0-2ebe0 2ebf0-2ee5d 2f800-2fa1d 30000-3134a 31350-323af"]⟩,
  ⟨["cr"], [],
    ["d"],
    []⟩,
  ⟨["doublequote", "dq"], [],
    ["22"],
    []⟩,
  ⟨["extend"], ["Mn", "Mc", "Me"],
    ["200c ff9e-ff9f 1f3fb-1f3ff e0020-e007f"],
    []⟩,
  ⟨["extendnumlet", "ex"], ["Pc"],
    ["202f"],
    []⟩,
  ⟨["format", "fo"], ["Cf"],
    [],
    ["600-605 6dd 70f 890-891 8e2 200b-200d 110bd 110cd e0020-e007f"]⟩,
  ⟨["hebrewletter", "hl"], [],
    ["5d0-5ea 5ef-5f2 fb1d fb1f-fb28 fb2a-fb36 fb38-fb3c fb3e fb40-fb41 fb43-fb44 fb46-fb4f"],
    []⟩,
  ⟨["katakana", "ka"], [],
    ["3031-3035 309b-309c 30a0-30fa 30fc-30ff 31f0-31ff 32d0-32fe 3300-3357 ff66-ff9d",
     "1aff0-1aff3 1aff5-1affb 1affd-1affe 1b000 1b120-1b122 1b155 1b164-1b167"],
    []⟩,
  ⟨["lf"], [],
    ["a"],
    []⟩,
  ⟨["midletter", "ml"], [],
    ["3a b7 387 55f 5f4 2027 fe13 fe55 ff1a"],
    []⟩,
  ⟨["midnum", "mn"], [],
    ["2c 3b 37e 589 60c-60d 66c 7f8 2044 fe50 fe54 ff0c ff1b"],
    []⟩,
  ⟨["midnumlet", "mb"], [],
    ["2e 2018-2019 2024 fe52 ff07 ff0e"],
    []⟩,
  ⟨["newline", "nl"], [],
    ["b-c 85 2028-2029"],
    []⟩,
  ⟨["numeric", "nu"], ["Nd"],
    ["600-605 66b 6dd 890-891 8e2 19da 110bd 110cd"],
    []⟩,
  ⟨["regionalindicator", "ri"], [],
    ["1f1e6-1f1ff"],
    []⟩,
  ⟨["singlequote", "sq"], [],
    ["27"],
    []⟩,
  ⟨["wsegspace"], ["Zs"],
    [],
    ["a0 2007 202f"]⟩,
  ⟨["zwj"], [],
    ["200d"],
    []⟩]

def sentenceBreaks : List NamedSet := [
  ⟨["aterm", "at"], [],
    ["2e 2024 fe52 ff0e"],
    []⟩,
  ⟨["cr"], [],
    ["d"],
    []⟩,
  ⟨["close", "cl"], ["Ps", "Pe"],
    ["22 27 ab bb 2018-2019 201b-201d 201f 2039-203a 275b-2760 2e00-2e0d 2e1c-2e1d 2e20-2e21",
     "1f676-1f678"],
    []⟩,
  ⟨["extend", "ex"], ["Mn", "Mc", "Me"],
    ["200c-200d ff9e-ff9f e0020-e007f"],
    []⟩,
  ⟨["format", "fo"], ["Cf"],
    [],
    ["600-605 6dd 890-891 8e2 200c-200d 110bd 110cd e0020-e007f"]⟩,
  ⟨["lf"], [],
    ["a"],
    []⟩,
  ⟨["lower", "lo"], ["Ll"],
    ["aa ba 2b0-2b8 2c0-2c1 2e0-2e4 37a 10fc 1d2c-1d6a 1d78 1d9b-1dbf 2071 207f 2090-209c",
     "2170-217f 24d0-24e9 2c7c-2c7d a69c-a69d a770 a7f2-a7f4 a7f8-a7f9 ab5c-ab5f ab69 10780",
     "10783-10785 10787-107b0 107b2-107ba 1e030-1e06d"],
    ["10d0-10fa 10fd-10ff"]⟩,
  ⟨["numeric", "nu"], ["Nd"],
    ["600-605 66b-66c 6dd 890-891 8e2 19da 110bd 110cd"],
    []⟩,
  ⟨["oletter", "le"], ["Lo", "Nl"],
    ["2b9-2bf 2c6-2d1 2ec 2ee 374 559 5f3 640 6e5-6e6 7f4-7f5 7fa 81a 824 828 8c9 971 e46 ec6",
     "10d0-10fa 10fd-10ff 17d7 1843 1aa7 1c78-1c7d 1c90-1cba 1cbd-1cbf 2d6f 2e2f 3005 3031-3035",
     "303b 309d-309e 30fc-30fe a015 a4f8-a4fd a60c a67f a717-a71f a788 a9cf a9e6 aa70 aadd",
     "aaf3-aaf4 ff70 10781-10782 10d4e 10d6f 16b40-16b43 16d40-16d42 16d6b-16d6c 16f93-16f9f",
     "16fe0-16fe1 16fe3 1aff0-1aff3 1aff5-1affb 1affd-1affe 1e137-1e13d 1e4eb 1e94b"],
    ["aa ba 2160-217f"]⟩,
  ⟨["scontinue", "sc"], [],
    ["2c-2d 3a-3b 37e 55d 60c-60d 7f8 1802 1808 2013-2014 3001 fe10-fe11 fe13-fe14 fe31-fe32",
     "fe50-fe51 fe54-fe55 fe58 fe63 ff0c-ff0d ff1a-ff1b ff64"],
    []⟩,
  ⟨["sterm", "st"], [],
    ["21 3f 589 61d-61f 6d4 700-702 7f9 837 839 83d-83e 964-965 104a-104b 1362 1367-1368 166e",
     "1735-1736 17d4-17d5 1803 1809 1944-1945 1aa8-1aab 1b4e-1b4f 1b5a-1b5b 1b5e-1b5f 1b7d-1b7f",
     "1c3b-1c3c 1c7e-1c7f 203c-203d 2047-2049 2cf9-2cfb 2e2e 2e3c 2e53-2e54 3002 a4ff a60e-a60f",
     "a6f3 a6f7 a876-a877 a8ce-a8cf a92f a9c8-a9c9 aa5d-aa5f aaf0-aaf1 abeb fe12 fe15-fe16",
     "fe56-fe57 ff01 ff1f ff61 10a56-10a57 10f55-10f59 10f86-10f89 11047-11048 110be-110c1",
     "11141-11143 111c5-111c6 111cd 111de-111df 11238-11239 1123b-1123c 112a9 113d4-113d5",
     "1144b-1144c 115c2-115c3 115c9-115d7 11641-11642 1173c-1173e 11944 11946 11a42-11a43",
     "11a9b-11a9c 11c41-11c42 11ef7-11ef8 11f43-11f44 16a6e-16a6f 16af5 16b37-16b38 16b44",
     "16d6e-16d6f 16e98 1bc9f 1da88"],
    []⟩,
  ⟨["sep", "se"], [],
    ["85 2028-2029"],
    []⟩,
  ⟨["sp"], ["Zs"],
    ["9 b-c"],
    []⟩,
  ⟨["upper", "up"], ["Lu", "Lt"],
    ["2160-216f 24b6-24cf 1f130-1f149 1f150-1f169 1f170-1f189"],
    ["1c90-1cba 1cbd-1cbf"]⟩]

end PromptGraph.Text
