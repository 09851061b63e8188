/-! # Character data of the Unicode standard

Tables of the character classes and case mappings that text functions need, for the whole
code space, as of version 17.0 of the standard. Each table is a compact text read once into
an array:

* `printableRanges`: the printable characters, those of the letter, mark, number,
  punctuation and symbol categories and the ASCII space, as `lo-hi` hexadecimal ranges;
* `upperRanges`: the characters of the upper-case letter category;
* `caseTable`: every character with a simple upper-case or lower-case mapping, as the
  distance from the previous entry and the offsets of its upper and lower case.
-/

namespace Timebox

namespace Text

/-- Printable character ranges. -/
def printableRangesText : String :=
  String.join [
    "20-7e,a1-ac,ae-377,37a-37f,384-38a,38c,38e-3a1,3a3-52f,531-556,559-58a,58d-58f,591-5c7,5d0-5ea,",
    "5ef-5f4,606-61b,61d-6dc,6de-70d,710-74a,74d-7b1,7c0-7fa,7fd-82d,830-83e,840-85b,85e,860-86a,870-88e,",
    "897-8e1,8e3-983,985-98c,98f-990,993-9a8,9aa-9b0,9b2,9b6-9b9,9bc-9c4,9c7-9c8,9cb-9ce,9d7,9dc-9dd,",
    "9df-9e3,9e6-9fe,a01-a03,a05-a0a,a0f-a10,a13-a28,a2a-a30,a32-a33,a35-a36,a38-a39,a3c,a3e-a42,a47-a48,",
    "a4b-a4d,a51,a59-a5c,a5e,a66-a76,a81-a83,a85-a8d,a8f-a91,a93-aa8,aaa-ab0,ab2-ab3,ab5-ab9,abc-ac5,",
    "ac7-ac9,acb-acd,ad0,ae0-ae3,ae6-af1,af9-aff,b01-b03,b05-b0c,b0f-b10,b13-b28,b2a-b30,b32-b33,b35-b39,",
    "b3c-b44,b47-b48,b4b-b4d,b55-b57,b5c-b5d,b5f-b63,b66-b77,b82-b83,b85-b8a,b8e-b90,b92-b95,b99-b9a,b9c,",
    "b9e-b9f,ba3-ba4,ba8-baa,bae-bb9,bbe-bc2,bc6-bc8,bca-bcd,bd0,bd7,be6-bfa,c00-c0c,c0e-c10,c12-c28,",
    "c2a-c39,c3c-c44,c46-c48,c4a-c4d,c55-c56,c58-c5a,c5d,c60-c63,c66-c6f,c77-c8c,c8e-c90,c92-ca8,caa-cb3,",
    "cb5-cb9,cbc-cc4,cc6-cc8,cca-ccd,cd5-cd6,cdd-cde,ce0-ce3,ce6-cef,cf1-cf3,d00-d0c,d0e-d10,d12-d44,",
    "d46-d48,d4a-d4f,d54-d63,d66-d7f,d81-d83,d85-d96,d9a-db1,db3-dbb,dbd,dc0-dc6,dca,dcf-dd4,dd6,dd8-ddf,",
    "de6-def,df2-df4,e01-e3a,e3f-e5b,e81-e82,e84,e86-e8a,e8c-ea3,ea5,ea7-ebd,ec0-ec4,ec6,ec8-ece,ed0-ed9,",
    "edc-edf,f00-f47,f49-f6c,f71-f97,f99-fbc,fbe-fcc,fce-fda,1000-10c5,10c7,10cd,10d0-1248,124a-124d,",
    "1250-1256,1258,125a-125d,1260-1288,128a-128d,1290-12b0,12b2-12b5,12b8-12be,12c0,12c2-12c5,12c8-12d6,",
    "12d8-1310,1312-1315,1318-135a,135d-137c,1380-1399,13a0-13f5,13f8-13fd,1400-167f,1681-169c,16a0-16f8,",
    "1700-1715,171f-1736,1740-1753,1760-176c,176e-1770,1772-1773,1780-17dd,17e0-17e9,17f0-17f9,1800-180d,",
    "180f-1819,1820-1878,1880-18aa,18b0-18f5,1900-191e,1920-192b,1930-193b,1940,1944-196d,1970-1974,",
    "1980-19ab,19b0-19c9,19d0-19da,19de-1a1b,1a1e-1a5e,1a60-1a7c,1a7f-1a89,1a90-1a99,1aa0-1aad,1ab0-1ace,",
    "1b00-1b4c,1b4e-1bf3,1bfc-1c37,1c3b-1c49,1c4d-1c8a,1c90-1cba,1cbd-1cc7,1cd0-1cfa,1d00-1f15,1f18-1f1d,",
    "1f20-1f45,1f48-1f4d,1f50-1f57,1f59,1f5b,1f5d,1f5f-1f7d,1f80-1fb4,1fb6-1fc4,1fc6-1fd3,1fd6-1fdb,",
    "1fdd-1fef,1ff2-1ff4,1ff6-1ffe,2010-2027,2030-205e,2070-2071,2074-208e,2090-209c,20a0-20c1,20d0-20f0,",
    "2100-218b,2190-2429,2440-244a,2460-2b73,2b76-2b95,2b97-2cf3,2cf9-2d25,2d27,2d2d,2d30-2d67,2d6f-2d70,",
    "2d7f-2d96,2da0-2da6,2da8-2dae,2db0-2db6,2db8-2dbe,2dc0-2dc6,2dc8-2dce,2dd0-2dd6,2dd8-2dde,2de0-2e5d,",
    "2e80-2e99,2e9b-2ef3,2f00-2fd5,2ff0-2fff,3001-303f,3041-3096,3099-30ff,3105-312f,3131-318e,3190-31e5,",
    "31ef-321e,3220-a48c,a490-a4c6,a4d0-a62b,a640-a6f7,a700-a7dc,a7f1-a82c,a830-a839,a840-a877,a880-a8c5,",
    "a8ce-a8d9,a8e0-a953,a95f-a97c,a980-a9cd,a9cf-a9d9,a9de-a9fe,aa00-aa36,aa40-aa4d,aa50-aa59,aa5c-aac2,",
    "aadb-aaf6,ab01-ab06,ab09-ab0e,ab11-ab16,ab20-ab26,ab28-ab2e,ab30-ab6b,ab70-abed,abf0-abf9,ac00-d7a3,",
    "d7b0-d7c6,d7cb-d7fb,f900-fa6d,fa70-fad9,fb00-fb06,fb13-fb17,fb1d-fb36,fb38-fb3c,fb3e,fb40-fb41,",
    "fb43-fb44,fb46-fbc2,fbd3-fd8f,fd92-fdc7,fdcf,fdf0-fe19,fe20-fe52,fe54-fe66,fe68-fe6b,fe70-fe74,",
    "fe76-fefc,ff01-ffbe,ffc2-ffc7,ffca-ffcf,ffd2-ffd7,ffda-ffdc,ffe0-ffe6,ffe8-ffee,fffc-fffd,",
    "10000-1000b,1000d-10026,10028-1003a,1003c-1003d,1003f-1004d,10050-1005d,10080-100fa,10100-10102,",
    "10107-10133,10137-1018e,10190-1019c,101a0,101d0-101fd,10280-1029c,102a0-102d0,102e0-102fb,",
    "10300-10323,1032d-1034a,10350-1037a,10380-1039d,1039f-103c3,103c8-103d5,10400-1049d,104a0-104a9,",
    "104b0-104d3,104d8-104fb,10500-10527,10530-10563,1056f-1057a,1057c-1058a,1058c-10592,10594-10595,",
    "10597-105a1,105a3-105b1,105b3-105b9,105bb-105bc,105c0-105f3,10600-10736,10740-10755,10760-10767,",
    "10780-10785,10787-107b0,107b2-107ba,10800-10805,10808,1080a-10835,10837-10838,1083c,1083f-10855,",
    "10857-1089e,108a7-108af,108e0-108f2,108f4-108f5,108fb-1091b,1091f-10939,1093f-10959,10980-109b7,",
    "109bc-109cf,109d2-10a03,10a05-10a06,10a0c-10a13,10a15-10a17,10a19-10a35,10a38-10a3a,10a3f-10a48,",
    "10a50-10a58,10a60-10a9f,10ac0-10ae6,10aeb-10af6,10b00-10b35,10b39-10b55,10b58-10b72,10b78-10b91,",
    "10b99-10b9c,10ba9-10baf,10c00-10c48,10c80-10cb2,10cc0-10cf2,10cfa-10d27,10d30-10d39,10d40-10d65,",
    "10d69-10d85,10d8e-10d8f,10e60-10e7e,10e80-10ea9,10eab-10ead,10eb0-10eb1,10ec2-10ec4,10efc-10f27,",
    "10f30-10f59,10f70-10f89,10fb0-10fcb,10fe0-10ff6,11000-1104d,11052-11075,1107f-110bc,110be-110c2,",
    "110d0-110e8,110f0-110f9,11100-11134,11136-11147,11150-11176,11180-111df,111e1-111f4,11200-11211,",
    "11213-11241,11280-11286,11288,1128a-1128d,1128f-1129d,1129f-112a9,112b0-112ea,112f0-112f9,",
    "11300-11303,11305-1130c,1130f-11310,11313-11328,1132a-11330,11332-11333,11335-11339,1133b-11344,",
    "11347-11348,1134b-1134d,11350,11357,1135d-11363,11366-1136c,11370-11374,11380-11389,1138b,1138e,",
    "11390-113b5,113b7-113c0,113c2,113c5,113c7-113ca,113cc-113d5,113d7-113d8,113e1-113e2,11400-1145b,",
    "1145d-11461,11480-114c7,114d0-114d9,11580-115b5,115b8-115dd,11600-11644,11650-11659,11660-1166c,",
    "11680-116b9,116c0-116c9,116d0-116e3,11700-1171a,1171d-1172b,11730-11746,11800-1183b,118a0-118f2,",
    "118ff-11906,11909,1190c-11913,11915-11916,11918-11935,11937-11938,1193b-11946,11950-11959,",
    "119a0-119a7,119aa-119d7,119da-119e4,11a00-11a47,11a50-11aa2,11ab0-11af8,11b00-11b09,11b60-11b67,",
    "11bc0-11be1,11bf0-11bf9,11c00-11c08,11c0a-11c36,11c38-11c45,11c50-11c6c,11c70-11c8f,11c92-11ca7,",
    "11ca9-11cb6,11d00-11d06,11d08-11d09,11d0b-11d36,11d3a,11d3c-11d3d,11d3f-11d47,11d50-11d59,",
    "11d60-11d65,11d67-11d68,11d6a-11d8e,11d90-11d91,11d93-11d98,11da0-11da9,11db0-11ddb,11de0-11de9,",
    "11ee0-11ef8,11f00-11f10,11f12-11f3a,11f3e-11f5a,11fb0,11fc0-11ff1,11fff-12399,12400-1246e,",
    "12470-12474,12480-12543,12f90-12ff2,13000-1342f,13440-13455,13460-143fa,14400-14646,16100-16139,",
    "16800-16a38,16a40-16a5e,16a60-16a69,16a6e-16abe,16ac0-16ac9,16ad0-16aed,16af0-16af5,16b00-16b45,",
    "16b50-16b59,16b5b-16b61,16b63-16b77,16b7d-16b8f,16d40-16d79,16e40-16e9a,16ea0-16ed3,16f00-16f4a,",
    "16f4f-16f87,16f8f-16f9f,16fe0-16fe4,16ff0-16ff1,17000-187f7,18800-18cd5,18cff-18d08,18d80-18df2,",
    "1aff0-1aff3,1aff5-1affb,1affd-1affe,1b000-1b122,1b132,1b150-1b152,1b155,1b164-1b167,1b170-1b2fb,",
    "1bc00-1bc6a,1bc70-1bc7c,1bc80-1bc88,1bc90-1bc99,1bc9c-1bc9f,1cc00-1ccf9,1cd00-1ceb3,1cf00-1cf2d,",
    "1cf30-1cf46,1cf50-1cfc3,1d000-1d0f5,1d100-1d126,1d129-1d172,1d17b-1d1ea,1d200-1d245,1d2c0-1d2d3,",
    "1d2e0-1d2f3,1d300-1d356,1d360-1d378,1d400-1d454,1d456-1d49c,1d49e-1d49f,1d4a2,1d4a5-1d4a6,",
    "1d4a9-1d4ac,1d4ae-1d4b9,1d4bb,1d4bd-1d4c3,1d4c5-1d505,1d507-1d50a,1d50d-1d514,1d516-1d51c,",
    "1d51e-1d539,1d53b-1d53e,1d540-1d544,1d546,1d54a-1d550,1d552-1d6a5,1d6a8-1d7cb,1d7ce-1da8b,",
    "1da9b-1da9f,1daa1-1daaf,1df00-1df1e,1df25-1df2a,1e000-1e006,1e008-1e018,1e01b-1e021,1e023-1e024,",
    "1e026-1e02a,1e030-1e06d,1e08f,1e100-1e12c,1e130-1e13d,1e140-1e149,1e14e-1e14f,1e290-1e2ae,",
    "1e2c0-1e2f9,1e2ff,1e4d0-1e4f9,1e5d0-1e5fa,1e5ff,1e6c0-1e6de,1e6e0-1e6f5,1e6fe-1e6ff,1e7e0-1e7e6,",
    "1e7e8-1e7eb,1e7ed-1e7ee,1e7f0-1e7fe,1e800-1e8c4,1e8c7-1e8d6,1e900-1e94b,1e950-1e959,1e95e-1e95f,",
    "1ec71-1ecb4,1ed01-1ed3d,1ee00-1ee03,1ee05-1ee1f,1ee21-1ee22,1ee24,1ee27,1ee29-1ee32,1ee34-1ee37,",
    "1ee39,1ee3b,1ee42,1ee47,1ee49,1ee4b,1ee4d-1ee4f,1ee51-1ee52,1ee54,1ee57,1ee59,1ee5b,1ee5d,1ee5f,",
    "1ee61-1ee62,1ee64,1ee67-1ee6a,1ee6c-1ee72,1ee74-1ee77,1ee79-1ee7c,1ee7e,1ee80-1ee89,1ee8b-1ee9b,",
    "1eea1-1eea3,1eea5-1eea9,1eeab-1eebb,1eef0-1eef1,1f000-1f02b,1f030-1f093,1f0a0-1f0ae,1f0b1-1f0bf,",
    "1f0c1-1f0cf,1f0d1-1f0f5,1f100-1f1ad,1f1e6-1f202,1f210-1f23b,1f240-1f248,1f250-1f251,1f260-1f265,",
    "1f300-1f6d8,1f6dc-1f6ec,1f6f0-1f6fc,1f700-1f776,1f77b-1f7d9,1f7e0-1f7eb,1f7f0,1f800-1f80b,",
    "1f810-1f847,1f850-1f859,1f860-1f887,1f890-1f8ad,1f8b0-1f8bb,1f8c0-1f8c1,1f900-1fa53,1fa60-1fa6d,",
    "1fa70-1fa7c,1fa80-1fa8a,1fa8e-1fac6,1fac8,1facd-1fadc,1fadf-1faea,1faef-1faf8,1fb00-1fb92,",
    "1fb94-1fbf9,20000-2a6df,2a700-2b739,2b740-2b81d,2b820-2cea1,2ceb0-2ebe0,2ebf0-2ee5d,2f800-2fa1d,",
    "30000-3134a,31350-33479,e0100-e01ef"]

/-- Upper-case letter ranges. -/
def upperRangesText : String :=
  String.join [
    "41-5a,c0-d6,d8-de,100,102,104,106,108,10a,10c,10e,110,112,114,116,118,11a,11c,11e,120,122,124,126,",
    "128,12a,12c,12e,130,132,134,136,139,13b,13d,13f,141,143,145,147,14a,14c,14e,150,152,154,156,158,15a,",
    "15c,15e,160,162,164,166,168,16a,16c,16e,170,172,174,176,178-179,17b,17d,181-182,184,186-187,189-18b,",
    "18e-191,193-194,196-198,19c-19d,19f-1a0,1a2,1a4,1a6-1a7,1a9,1ac,1ae-1af,1b1-1b3,1b5,1b7-1b8,1bc,1c4,",
    "1c7,1ca,1cd,1cf,1d1,1d3,1d5,1d7,1d9,1db,1de,1e0,1e2,1e4,1e6,1e8,1ea,1ec,1ee,1f1,1f4,1f6-1f8,1fa,1fc,",
    "1fe,200,202,204,206,208,20a,20c,20e,210,212,214,216,218,21a,21c,21e,220,222,224,226,228,22a,22c,22e,",
    "230,232,23a-23b,23d-23e,241,243-246,248,24a,24c,24e,370,372,376,37f,386,388-38a,38c,38e-38f,391-3a1,",
    "3a3-3ab,3cf,3d2-3d4,3d8,3da,3dc,3de,3e0,3e2,3e4,3e6,3e8,3ea,3ec,3ee,3f4,3f7,3f9-3fa,3fd-42f,460,462,",
    "464,466,468,46a,46c,46e,470,472,474,476,478,47a,47c,47e,480,48a,48c,48e,490,492,494,496,498,49a,49c,",
    "49e,4a0,4a2,4a4,4a6,4a8,4aa,4ac,4ae,4b0,4b2,4b4,4b6,4b8,4ba,4bc,4be,4c0-4c1,4c3,4c5,4c7,4c9,4cb,4cd,",
    "4d0,4d2,4d4,4d6,4d8,4da,4dc,4de,4e0,4e2,4e4,4e6,4e8,4ea,4ec,4ee,4f0,4f2,4f4,4f6,4f8,4fa,4fc,4fe,500,",
    "502,504,506,508,50a,50c,50e,510,512,514,516,518,51a,51c,51e,520,522,524,526,528,52a,52c,52e,531-556,",
    "10a0-10c5,10c7,10cd,13a0-13f5,1c89,1c90-1cba,1cbd-1cbf,1e00,1e02,1e04,1e06,1e08,1e0a,1e0c,1e0e,1e10,",
    "1e12,1e14,1e16,1e18,1e1a,1e1c,1e1e,1e20,1e22,1e24,1e26,1e28,1e2a,1e2c,1e2e,1e30,1e32,1e34,1e36,1e38,",
    "1e3a,1e3c,1e3e,1e40,1e42,1e44,1e46,1e48,1e4a,1e4c,1e4e,1e50,1e52,1e54,1e56,1e58,1e5a,1e5c,1e5e,1e60,",
    "1e62,1e64,1e66,1e68,1e6a,1e6c,1e6e,1e70,1e72,1e74,1e76,1e78,1e7a,1e7c,1e7e,1e80,1e82,1e84,1e86,1e88,",
    "1e8a,1e8c,1e8e,1e90,1e92,1e94,1e9e,1ea0,1ea2,1ea4,1ea6,1ea8,1eaa,1eac,1eae,1eb0,1eb2,1eb4,1eb6,1eb8,",
    "1eba,1ebc,1ebe,1ec0,1ec2,1ec4,1ec6,1ec8,1eca,1ecc,1ece,1ed0,1ed2,1ed4,1ed6,1ed8,1eda,1edc,1ede,1ee0,",
    "1ee2,1ee4,1ee6,1ee8,1eea,1eec,1eee,1ef0,1ef2,1ef4,1ef6,1ef8,1efa,1efc,1efe,1f08-1f0f,1f18-1f1d,",
    "1f28-1f2f,1f38-1f3f,1f48-1f4d,1f59,1f5b,1f5d,1f5f,1f68-1f6f,1fb8-1fbb,1fc8-1fcb,1fd8-1fdb,1fe8-1fec,",
    "1ff8-1ffb,2102,2107,210b-210d,2110-2112,2115,2119-211d,2124,2126,2128,212a-212d,2130-2133,213e-213f,",
    "2145,2183,2c00-2c2f,2c60,2c62-2c64,2c67,2c69,2c6b,2c6d-2c70,2c72,2c75,2c7e-2c80,2c82,2c84,2c86,2c88,",
    "2c8a,2c8c,2c8e,2c90,2c92,2c94,2c96,2c98,2c9a,2c9c,2c9e,2ca0,2ca2,2ca4,2ca6,2ca8,2caa,2cac,2cae,2cb0,",
    "2cb2,2cb4,2cb6,2cb8,2cba,2cbc,2cbe,2cc0,2cc2,2cc4,2cc6,2cc8,2cca,2ccc,2cce,2cd0,2cd2,2cd4,2cd6,2cd8,",
    "2cda,2cdc,2cde,2ce0,2ce2,2ceb,2ced,2cf2,a640,a642,a644,a646,a648,a64a,a64c,a64e,a650,a652,a654,a656,",
    "a658,a65a,a65c,a65e,a660,a662,a664,a666,a668,a66a,a66c,a680,a682,a684,a686,a688,a68a,a68c,a68e,a690,",
    "a692,a694,a696,a698,a69a,a722,a724,a726,a728,a72a,a72c,a72e,a732,a734,a736,a738,a73a,a73c,a73e,a740,",
    "a742,a744,a746,a748,a74a,a74c,a74e,a750,a752,a754,a756,a758,a75a,a75c,a75e,a760,a762,a764,a766,a768,",
    "a76a,a76c,a76e,a779,a77b,a77d-a77e,a780,a782,a784,a786,a78b,a78d,a790,a792,a796,a798,a79a,a79c,a79e,",
    "a7a0,a7a2,a7a4,a7a6,a7a8,a7aa-a7ae,a7b0-a7b4,a7b6,a7b8,a7ba,a7bc,a7be,a7c0,a7c2,a7c4-a7c7,a7c9,",
    "a7cb-a7cc,a7ce,a7d0,a7d2,a7d4,a7d6,a7d8,a7da,a7dc,a7f5,ff21-ff3a,10400-10427,104b0-104d3,",
    "10570-1057a,1057c-1058a,1058c-10592,10594-10595,10c80-10cb2,10d50-10d65,118a0-118bf,16e40-16e5f,",
    "1d400-1d419,1d434-1d44d,1d468-1d481,1d49c,1d49e-1d49f,1d4a2,1d4a5-1d4a6,1d4a9-1d4ac,1d4ae-1d4b5,",
    "1d4d0-1d4e9,1d504-1d505,1d507-1d50a,1d50d-1d514,1d516-1d51c,1d538-1d539,1d53b-1d53e,1d540-1d544,",
    "1d546,1d54a-1d550,1d56c-1d585,1d5a0-1d5b9,1d5d4-1d5ed,1d608-1d621,1d63c-1d655,1d670-1d689,",
    "1d6a8-1d6c0,1d6e2-1d6fa,1d71c-1d734,1d756-1d76e,1d790-1d7a8,1d7ca,1e900-1e921"]

/-- Simple case mappings: hexadecimal step from the previous entry, upper and lower offset. -/
def caseTableText : String :=
  String.join [
    "41 0 32;1 0 32;1 0 32;1 0 32;1 0 32;1 0 32;1 0 32;1 0 32;1 0 32;1 0 32;1 0 32;1 0 32;1 0 32;1 0 32;",
    "1 0 32;1 0 32;1 0 32;1 0 32;1 0 32;1 0 32;1 0 32;1 0 32;1 0 32;1 0 32;1 0 32;1 0 32;7 -32 0;1 -32 0;",
    "1 -32 0;1 -32 0;1 -32 0;1 -32 0;1 -32 0;1 -32 0;1 -32 0;1 -32 0;1 -32 0;1 -32 0;1 -32 0;1 -32 0;",
    "1 -32 0;1 -32 0;1 -32 0;1 -32 0;1 -32 0;1 -32 0;1 -32 0;1 -32 0;1 -32 0;1 -32 0;1 -32 0;1 -32 0;",
    "3b 743 0;b 0 32;1 0 32;1 0 32;1 0 32;1 0 32;1 0 32;1 0 32;1 0 32;1 0 32;1 0 32;1 0 32;1 0 32;1 0 32;",
    "1 0 32;1 0 32;1 0 32;1 0 32;1 0 32;1 0 32;1 0 32;1 0 32;1 0 32;1 0 32;2 0 32;1 0 32;1 0 32;1 0 32;",
    "1 0 32;1 0 32;1 0 32;2 -32 0;1 -32 0;1 -32 0;1 -32 0;1 -32 0;1 -32 0;1 -32 0;1 -32 0;1 -32 0;",
    "1 -32 0;1 -32 0;1 -32 0;1 -32 0;1 -32 0;1 -32 0;1 -32 0;1 -32 0;1 -32 0;1 -32 0;1 -32 0;1 -32 0;",
    "1 -32 0;1 -32 0;2 -32 0;1 -32 0;1 -32 0;1 -32 0;1 -32 0;1 -32 0;1 -32 0;1 121 0;1 0 1;1 -1 0;1 0 1;",
    "1 -1 0;1 0 1;1 -1 0;1 0 1;1 -1 0;1 0 1;1 -1 0;1 0 1;1 -1 0;1 0 1;1 -1 0;1 0 1;1 -1 0;1 0 1;1 -1 0;",
    "1 0 1;1 -1 0;1 0 1;1 -1 0;1 0 1;1 -1 0;1 0 1;1 -1 0;1 0 1;1 -1 0;1 0 1;1 -1 0;1 0 1;1 -1 0;1 0 1;",
    "1 -1 0;1 0 1;1 -1 0;1 0 1;1 -1 0;1 0 1;1 -1 0;1 0 1;1 -1 0;1 0 1;1 -1 0;1 0 1;1 -1 0;1 0 1;1 -1 0;",
    "1 0 -199;1 -232 0;1 0 1;1 -1 0;1 0 1;1 -1 0;1 0 1;1 -1 0;2 0 1;1 -1 0;1 0 1;1 -1 0;1 0 1;1 -1 0;",
    "1 0 1;1 -1 0;1 0 1;1 -1 0;1 0 1;1 -1 0;1 0 1;1 -1 0;1 0 1;1 -1 0;2 0 1;1 -1 0;1 0 1;1 -1 0;1 0 1;",
    "1 -1 0;1 0 1;1 -1 0;1 0 1;1 -1 0;1 0 1;1 -1 0;1 0 1;1 -1 0;1 0 1;1 -1 0;1 0 1;1 -1 0;1 0 1;1 -1 0;",
    "1 0 1;1 -1 0;1 0 1;1 -1 0;1 0 1;1 -1 0;1 0 1;1 -1 0;1 0 1;1 -1 0;1 0 1;1 -1 0;1 0 1;1 -1 0;1 0 1;",
    "1 -1 0;1 0 1;1 -1 0;1 0 1;1 -1 0;1 0 1;1 -1 0;1 0 1;1 -1 0;1 0 1;1 -1 0;1 0 -121;1 0 1;1 -1 0;1 0 1;",
    "1 -1 0;1 0 1;1 -1 0;1 -300 0;1 195 0;1 0 210;1 0 1;1 -1 0;1 0 1;1 -1 0;1 0 206;1 0 1;1 -1 0;1 0 205;",
    "1 0 205;1 0 1;1 -1 0;2 0 79;1 0 202;1 0 203;1 0 1;1 -1 0;1 0 205;1 0 207;1 97 0;1 0 211;1 0 209;",
    "1 0 1;1 -1 0;1 163 0;1 42561 0;1 0 211;1 0 213;1 130 0;1 0 214;1 0 1;1 -1 0;1 0 1;1 -1 0;1 0 1;",
    "1 -1 0;1 0 218;1 0 1;1 -1 0;1 0 218;3 0 1;1 -1 0;1 0 218;1 0 1;1 -1 0;1 0 217;1 0 217;1 0 1;1 -1 0;",
    "1 0 1;1 -1 0;1 0 219;1 0 1;1 -1 0;3 0 1;1 -1 0;2 56 0;5 0 2;1 -1 1;1 -2 0;1 0 2;1 -1 1;1 -2 0;1 0 2;",
    "1 -1 1;1 -2 0;1 0 1;1 -1 0;1 0 1;1 -1 0;1 0 1;1 -1 0;1 0 1;1 -1 0;1 0 1;1 -1 0;1 0 1;1 -1 0;1 0 1;",
    "1 -1 0;1 0 1;1 -1 0;1 -79 0;1 0 1;1 -1 0;1 0 1;1 -1 0;1 0 1;1 -1 0;1 0 1;1 -1 0;1 0 1;1 -1 0;1 0 1;",
    "1 -1 0;1 0 1;1 -1 0;1 0 1;1 -1 0;1 0 1;1 -1 0;2 0 2;1 -1 1;1 -2 0;1 0 1;1 -1 0;1 0 -97;1 0 -56;",
    "1 0 1;1 -1 0;1 0 1;1 -1 0;1 0 1;1 -1 0;1 0 1;1 -1 0;1 0 1;1 -1 0;1 0 1;1 -1 0;1 0 1;1 -1 0;1 0 1;",
    "1 -1 0;1 0 1;1 -1 0;1 0 1;1 -1 0;1 0 1;1 -1 0;1 0 1;1 -1 0;1 0 1;1 -1 0;1 0 1;1 -1 0;1 0 1;1 -1 0;",
    "1 0 1;1 -1 0;1 0 1;1 -1 0;1 0 1;1 -1 0;1 0 1;1 -1 0;1 0 1;1 -1 0;1 0 -130;2 0 1;1 -1 0;1 0 1;1 -1 0;",
    "1 0 1;1 -1 0;1 0 1;1 -1 0;1 0 1;1 -1 0;1 0 1;1 -1 0;1 0 1;1 -1 0;1 0 1;1 -1 0;1 0 1;1 -1 0;",
    "7 0 10795;1 0 1;1 -1 0;1 0 -163;1 0 10792;1 10815 0;1 10815 0;1 0 1;1 -1 0;1 0 -195;1 0 69;1 0 71;",
    "1 0 1;1 -1 0;1 0 1;1 -1 0;1 0 1;1 -1 0;1 0 1;1 -1 0;1 0 1;1 -1 0;1 10783 0;1 10780 0;1 10782 0;",
    "1 -210 0;1 -206 0;2 -205 0;1 -205 0;2 -202 0;2 -203 0;1 42319 0;4 -205 0;1 42315 0;2 -207 0;",
    "1 42343 0;1 42280 0;1 42308 0;2 -209 0;1 -211 0;1 42308 0;1 10743 0;1 42305 0;3 -211 0;2 10749 0;",
    "1 -213 0;3 -214 0;8 10727 0;3 -218 0;2 42307 0;1 -218 0;4 42282 0;1 -218 0;1 -69 0;1 -217 0;",
    "1 -217 0;1 -71 0;6 -219 0;b 42261 0;1 42258 0;a7 84 0;2b 0 1;1 -1 0;1 0 1;1 -1 0;3 0 1;1 -1 0;",
    "4 130 0;1 130 0;1 130 0;2 0 116;7 0 38;2 0 37;1 0 37;1 0 37;2 0 64;2 0 63;1 0 63;2 0 32;1 0 32;",
    "1 0 32;1 0 32;1 0 32;1 0 32;1 0 32;1 0 32;1 0 32;1 0 32;1 0 32;1 0 32;1 0 32;1 0 32;1 0 32;1 0 32;",
    "1 0 32;2 0 32;1 0 32;1 0 32;1 0 32;1 0 32;1 0 32;1 0 32;1 0 32;1 0 32;1 -38 0;1 -37 0;1 -37 0;",
    "1 -37 0;2 -32 0;1 -32 0;1 -32 0;1 -32 0;1 -32 0;1 -32 0;1 -32 0;1 -32 0;1 -32 0;1 -32 0;1 -32 0;",
    "1 -32 0;1 -32 0;1 -32 0;1 -32 0;1 -32 0;1 -32 0;1 -31 0;1 -32 0;1 -32 0;1 -32 0;1 -32 0;1 -32 0;",
    "1 -32 0;1 -32 0;1 -32 0;1 -32 0;1 -64 0;1 -63 0;1 -63 0;1 0 8;1 -62 0;1 -57 0;4 -47 0;1 -54 0;",
    "1 -8 0;1 0 1;1 -1 0;1 0 1;1 -1 0;1 0 1;1 -1 0;1 0 1;1 -1 0;1 0 1;1 -1 0;1 0 1;1 -1 0;1 0 1;1 -1 0;",
    "1 0 1;1 -1 0;1 0 1;1 -1 0;1 0 1;1 -1 0;1 0 1;1 -1 0;1 0 1;1 -1 0;1 -86 0;1 -80 0;1 7 0;1 -116 0;",
    "1 0 -60;1 -96 0;2 0 1;1 -1 0;1 0 -7;1 0 1;1 -1 0;2 0 -130;1 0 -130;1 0 -130;1 0 80;1 0 80;1 0 80;",
    "1 0 80;1 0 80;1 0 80;1 0 80;1 0 80;1 0 80;1 0 80;1 0 80;1 0 80;1 0 80;1 0 80;1 0 80;1 0 80;1 0 32;",
    "1 0 32;1 0 32;1 0 32;1 0 32;1 0 32;1 0 32;1 0 32;1 0 32;1 0 32;1 0 32;1 0 32;1 0 32;1 0 32;1 0 32;",
    "1 0 32;1 0 32;1 0 32;1 0 32;1 0 32;1 0 32;1 0 32;1 0 32;1 0 32;1 0 32;1 0 32;1 0 32;1 0 32;1 0 32;",
    "1 0 32;1 0 32;1 0 32;1 -32 0;1 -32 0;1 -32 0;1 -32 0;1 -32 0;1 -32 0;1 -32 0;1 -32 0;1 -32 0;",
    "1 -32 0;1 -32 0;1 -32 0;1 -32 0;1 -32 0;1 -32 0;1 -32 0;1 -32 0;1 -32 0;1 -32 0;1 -32 0;1 -32 0;",
    "1 -32 0;1 -32 0;1 -32 0;1 -32 0;1 -32 0;1 -32 0;1 -32 0;1 -32 0;1 -32 0;1 -32 0;1 -32 0;1 -80 0;",
    "1 -80 0;1 -80 0;1 -80 0;1 -80 0;1 -80 0;1 -80 0;1 -80 0;1 -80 0;1 -80 0;1 -80 0;1 -80 0;1 -80 0;",
    "1 -80 0;1 -80 0;1 -80 0;1 0 1;1 -1 0;1 0 1;1 -1 0;1 0 1;1 -1 0;1 0 1;1 -1 0;1 0 1;1 -1 0;1 0 1;",
    "1 -1 0;1 0 1;1 -1 0;1 0 1;1 -1 0;1 0 1;1 -1 0;1 0 1;1 -1 0;1 0 1;1 -1 0;1 0 1;1 -1 0;1 0 1;1 -1 0;",
    "1 0 1;1 -1 0;1 0 1;1 -1 0;1 0 1;1 -1 0;1 0 1;1 -1 0;9 0 1;1 -1 0;1 0 1;1 -1 0;1 0 1;1 -1 0;1 0 1;",
    "1 -1 0;1 0 1;1 -1 0;1 0 1;1 -1 0;1 0 1;1 -1 0;1 0 1;1 -1 0;1 0 1;1 -1 0;1 0 1;1 -1 0;1 0 1;1 -1 0;",
    "1 0 1;1 -1 0;1 0 1;1 -1 0;1 0 1;1 -1 0;1 0 1;1 -1 0;1 0 1;1 -1 0;1 0 1;1 -1 0;1 0 1;1 -1 0;1 0 1;",
    "1 -1 0;1 0 1;1 -1 0;1 0 1;1 -1 0;1 0 1;1 -1 0;1 0 1;1 -1 0;1 0 1;1 -1 0;1 0 1;1 -1 0;1 0 1;1 -1 0;",
    "1 0 1;1 -1 0;1 0 15;1 0 1;1 -1 0;1 0 1;1 -1 0;1 0 1;1 -1 0;1 0 1;1 -1 0;1 0 1;1 -1 0;1 0 1;1 -1 0;",
    "1 0 1;1 -1 0;1 -15 0;1 0 1;1 -1 0;1 0 1;1 -1 0;1 0 1;1 -1 0;1 0 1;1 -1 0;1 0 1;1 -1 0;1 0 1;1 -1 0;",
    "1 0 1;1 -1 0;1 0 1;1 -1 0;1 0 1;1 -1 0;1 0 1;1 -1 0;1 0 1;1 -1 0;1 0 1;1 -1 0;1 0 1;1 -1 0;1 0 1;",
    "1 -1 0;1 0 1;1 -1 0;1 0 1;1 -1 0;1 0 1;1 -1 0;1 0 1;1 -1 0;1 0 1;1 -1 0;1 0 1;1 -1 0;1 0 1;1 -1 0;",
    "1 0 1;1 -1 0;1 0 1;1 -1 0;1 0 1;1 -1 0;1 0 1;1 -1 0;1 0 1;1 -1 0;1 0 1;1 -1 0;1 0 1;1 -1 0;1 0 1;",
    "1 -1 0;1 0 1;1 -1 0;1 0 1;1 -1 0;1 0 1;1 -1 0;1 0 1;1 -1 0;1 0 1;1 -1 0;1 0 1;1 -1 0;1 0 1;1 -1 0;",
    "1 0 1;1 -1 0;1 0 1;1 -1 0;1 0 1;1 -1 0;1 0 1;1 -1 0;1 0 1;1 -1 0;1 0 1;1 -1 0;1 0 1;1 -1 0;1 0 1;",
    "1 -1 0;1 0 1;1 -1 0;1 0 1;1 -1 0;1 0 1;1 -1 0;1 0 1;1 -1 0;2 0 48;1 0 48;1 0 48;1 0 48;1 0 48;",
    "1 0 48;1 0 48;1 0 48;1 0 48;1 0 48;1 0 48;1 0 48;1 0 48;1 0 48;1 0 48;1 0 48;1 0 48;1 0 48;1 0 48;",
    "1 0 48;1 0 48;1 0 48;1 0 48;1 0 48;1 0 48;1 0 48;1 0 48;1 0 48;1 0 48;1 0 48;1 0 48;1 0 48;1 0 48;",
    "1 0 48;1 0 48;1 0 48;1 0 48;1 0 48;b -48 0;1 -48 0;1 -48 0;1 -48 0;1 -48 0;1 -48 0;1 -48 0;1 -48 0;",
    "1 -48 0;1 -48 0;1 -48 0;1 -48 0;1 -48 0;1 -48 0;1 -48 0;1 -48 0;1 -48 0;1 -48 0;1 -48 0;1 -48 0;",
    "1 -48 0;1 -48 0;1 -48 0;1 -48 0;1 -48 0;1 -48 0;1 -48 0;1 -48 0;1 -48 0;1 -48 0;1 -48 0;1 -48 0;",
    "1 -48 0;1 -48 0;1 -48 0;1 -48 0;1 -48 0;1 -48 0;b1a 0 7264;1 0 7264;1 0 7264;1 0 7264;1 0 7264;",
    "1 0 7264;1 0 7264;1 0 7264;1 0 7264;1 0 7264;1 0 7264;1 0 7264;1 0 7264;1 0 7264;1 0 7264;1 0 7264;",
    "1 0 7264;1 0 7264;1 0 7264;1 0 7264;1 0 7264;1 0 7264;1 0 7264;1 0 7264;1 0 7264;1 0 7264;1 0 7264;",
    "1 0 7264;1 0 7264;1 0 7264;1 0 7264;1 0 7264;1 0 7264;1 0 7264;1 0 7264;1 0 7264;1 0 7264;1 0 7264;",
    "2 0 7264;6 0 7264;3 3008 0;1 3008 0;1 3008 0;1 3008 0;1 3008 0;1 3008 0;1 3008 0;1 3008 0;1 3008 0;",
    "1 3008 0;1 3008 0;1 3008 0;1 3008 0;1 3008 0;1 3008 0;1 3008 0;1 3008 0;1 3008 0;1 3008 0;1 3008 0;",
    "1 3008 0;1 3008 0;1 3008 0;1 3008 0;1 3008 0;1 3008 0;1 3008 0;1 3008 0;1 3008 0;1 3008 0;1 3008 0;",
    "1 3008 0;1 3008 0;1 3008 0;1 3008 0;1 3008 0;1 3008 0;1 3008 0;1 3008 0;1 3008 0;1 3008 0;1 3008 0;",
    "1 3008 0;3 3008 0;1 3008 0;1 3008 0;2a1 0 38864;1 0 38864;1 0 38864;1 0 38864;1 0 38864;1 0 38864;",
    "1 0 38864;1 0 38864;1 0 38864;1 0 38864;1 0 38864;1 0 38864;1 0 38864;1 0 38864;1 0 38864;1 0 38864;",
    "1 0 38864;1 0 38864;1 0 38864;1 0 38864;1 0 38864;1 0 38864;1 0 38864;1 0 38864;1 0 38864;1 0 38864;",
    "1 0 38864;1 0 38864;1 0 38864;1 0 38864;1 0 38864;1 0 38864;1 0 38864;1 0 38864;1 0 38864;1 0 38864;",
    "1 0 38864;1 0 38864;1 0 38864;1 0 38864;1 0 38864;1 0 38864;1 0 38864;1 0 38864;1 0 38864;1 0 38864;",
    "1 0 38864;1 0 38864;1 0 38864;1 0 38864;1 0 38864;1 0 38864;1 0 38864;1 0 38864;1 0 38864;1 0 38864;",
    "1 0 38864;1 0 38864;1 0 38864;1 0 38864;1 0 38864;1 0 38864;1 0 38864;1 0 38864;1 0 38864;1 0 38864;",
    "1 0 38864;1 0 38864;1 0 38864;1 0 38864;1 0 38864;1 0 38864;1 0 38864;1 0 38864;1 0 38864;1 0 38864;",
    "1 0 38864;1 0 38864;1 0 38864;1 0 38864;1 0 8;1 0 8;1 0 8;1 0 8;1 0 8;1 0 8;3 -8 0;1 -8 0;1 -8 0;",
    "1 -8 0;1 -8 0;1 -8 0;883 -6254 0;1 -6253 0;1 -6244 0;1 -6242 0;1 -6242 0;1 -6243 0;1 -6236 0;",
    "1 -6181 0;1 35266 0;1 0 1;1 -1 0;6 0 -3008;1 0 -3008;1 0 -3008;1 0 -3008;1 0 -3008;1 0 -3008;",
    "1 0 -3008;1 0 -3008;1 0 -3008;1 0 -3008;1 0 -3008;1 0 -3008;1 0 -3008;1 0 -3008;1 0 -3008;1 0 -3008;",
    "1 0 -3008;1 0 -3008;1 0 -3008;1 0 -3008;1 0 -3008;1 0 -3008;1 0 -3008;1 0 -3008;1 0 -3008;1 0 -3008;",
    "1 0 -3008;1 0 -3008;1 0 -3008;1 0 -3008;1 0 -3008;1 0 -3008;1 0 -3008;1 0 -3008;1 0 -3008;1 0 -3008;",
    "1 0 -3008;1 0 -3008;1 0 -3008;1 0 -3008;1 0 -3008;1 0 -3008;1 0 -3008;3 0 -3008;1 0 -3008;1 0 -3008;",
    "ba 35332 0;4 3814 0;11 35384 0;72 0 1;1 -1 0;1 0 1;1 -1 0;1 0 1;1 -1 0;1 0 1;1 -1 0;1 0 1;1 -1 0;",
    "1 0 1;1 -1 0;1 0 1;1 -1 0;1 0 1;1 -1 0;1 0 1;1 -1 0;1 0 1;1 -1 0;1 0 1;1 -1 0;1 0 1;1 -1 0;1 0 1;",
    "1 -1 0;1 0 1;1 -1 0;1 0 1;1 -1 0;1 0 1;1 -1 0;1 0 1;1 -1 0;1 0 1;1 -1 0;1 0 1;1 -1 0;1 0 1;1 -1 0;",
    "1 0 1;1 -1 0;1 0 1;1 -1 0;1 0 1;1 -1 0;1 0 1;1 -1 0;1 0 1;1 -1 0;1 0 1;1 -1 0;1 0 1;1 -1 0;1 0 1;",
    "1 -1 0;1 0 1;1 -1 0;1 0 1;1 -1 0;1 0 1;1 -1 0;1 0 1;1 -1 0;1 0 1;1 -1 0;1 0 1;1 -1 0;1 0 1;1 -1 0;",
    "1 0 1;1 -1 0;1 0 1;1 -1 0;1 0 1;1 -1 0;1 0 1;1 -1 0;1 0 1;1 -1 0;1 0 1;1 -1 0;1 0 1;1 -1 0;1 0 1;",
    "1 -1 0;1 0 1;1 -1 0;1 0 1;1 -1 0;1 0 1;1 -1 0;1 0 1;1 -1 0;1 0 1;1 -1 0;1 0 1;1 -1 0;1 0 1;1 -1 0;",
    "1 0 1;1 -1 0;1 0 1;1 -1 0;1 0 1;1 -1 0;1 0 1;1 -1 0;1 0 1;1 -1 0;1 0 1;1 -1 0;1 0 1;1 -1 0;1 0 1;",
    "1 -1 0;1 0 1;1 -1 0;1 0 1;1 -1 0;1 0 1;1 -1 0;1 0 1;1 -1 0;1 0 1;1 -1 0;1 0 1;1 -1 0;1 0 1;1 -1 0;",
    "1 0 1;1 -1 0;1 0 1;1 -1 0;1 0 1;1 -1 0;1 0 1;1 -1 0;1 0 1;1 -1 0;1 0 1;1 -1 0;1 0 1;1 -1 0;1 0 1;",
    "1 -1 0;1 0 1;1 -1 0;1 0 1;1 -1 0;6 -59 0;3 0 -7615;2 0 1;1 -1 0;1 0 1;1 -1 0;1 0 1;1 -1 0;1 0 1;",
    "1 -1 0;1 0 1;1 -1 0;1 0 1;1 -1 0;1 0 1;1 -1 0;1 0 1;1 -1 0;1 0 1;1 -1 0;1 0 1;1 -1 0;1 0 1;1 -1 0;",
    "1 0 1;1 -1 0;1 0 1;1 -1 0;1 0 1;1 -1 0;1 0 1;1 -1 0;1 0 1;1 -1 0;1 0 1;1 -1 0;1 0 1;1 -1 0;1 0 1;",
    "1 -1 0;1 0 1;1 -1 0;1 0 1;1 -1 0;1 0 1;1 -1 0;1 0 1;1 -1 0;1 0 1;1 -1 0;1 0 1;1 -1 0;1 0 1;1 -1 0;",
    "1 0 1;1 -1 0;1 0 1;1 -1 0;1 0 1;1 -1 0;1 0 1;1 -1 0;1 0 1;1 -1 0;1 0 1;1 -1 0;1 0 1;1 -1 0;1 0 1;",
    "1 -1 0;1 0 1;1 -1 0;1 0 1;1 -1 0;1 0 1;1 -1 0;1 0 1;1 -1 0;1 0 1;1 -1 0;1 0 1;1 -1 0;1 0 1;1 -1 0;",
    "1 0 1;1 -1 0;1 0 1;1 -1 0;1 0 1;1 -1 0;1 0 1;1 -1 0;1 0 1;1 -1 0;1 0 1;1 -1 0;1 0 1;1 -1 0;1 8 0;",
    "1 8 0;1 8 0;1 8 0;1 8 0;1 8 0;1 8 0;1 8 0;1 0 -8;1 0 -8;1 0 -8;1 0 -8;1 0 -8;1 0 -8;1 0 -8;1 0 -8;",
    "1 8 0;1 8 0;1 8 0;1 8 0;1 8 0;1 8 0;3 0 -8;1 0 -8;1 0 -8;1 0 -8;1 0 -8;1 0 -8;3 8 0;1 8 0;1 8 0;",
    "1 8 0;1 8 0;1 8 0;1 8 0;1 8 0;1 0 -8;1 0 -8;1 0 -8;1 0 -8;1 0 -8;1 0 -8;1 0 -8;1 0 -8;1 8 0;1 8 0;",
    "1 8 0;1 8 0;1 8 0;1 8 0;1 8 0;1 8 0;1 0 -8;1 0 -8;1 0 -8;1 0 -8;1 0 -8;1 0 -8;1 0 -8;1 0 -8;1 8 0;",
    "1 8 0;1 8 0;1 8 0;1 8 0;1 8 0;3 0 -8;1 0 -8;1 0 -8;1 0 -8;1 0 -8;1 0 -8;4 8 0;2 8 0;2 8 0;2 8 0;",
    "2 0 -8;2 0 -8;2 0 -8;2 0 -8;1 8 0;1 8 0;1 8 0;1 8 0;1 8 0;1 8 0;1 8 0;1 8 0;1 0 -8;1 0 -8;1 0 -8;",
    "1 0 -8;1 0 -8;1 0 -8;1 0 -8;1 0 -8;1 74 0;1 74 0;1 86 0;1 86 0;1 86 0;1 86 0;1 100 0;1 100 0;",
    "1 128 0;1 128 0;1 112 0;1 112 0;1 126 0;1 126 0;3 8 0;1 8 0;1 8 0;1 8 0;1 8 0;1 8 0;1 8 0;1 8 0;",
    "1 0 -8;1 0 -8;1 0 -8;1 0 -8;1 0 -8;1 0 -8;1 0 -8;1 0 -8;1 8 0;1 8 0;1 8 0;1 8 0;1 8 0;1 8 0;1 8 0;",
    "1 8 0;1 0 -8;1 0 -8;1 0 -8;1 0 -8;1 0 -8;1 0 -8;1 0 -8;1 0 -8;1 8 0;1 8 0;1 8 0;1 8 0;1 8 0;1 8 0;",
    "1 8 0;1 8 0;1 0 -8;1 0 -8;1 0 -8;1 0 -8;1 0 -8;1 0 -8;1 0 -8;1 0 -8;1 8 0;1 8 0;2 9 0;5 0 -8;1 0 -8;",
    "1 0 -74;1 0 -74;1 0 -9;2 -7205 0;5 9 0;5 0 -86;1 0 -86;1 0 -86;1 0 -86;1 0 -9;4 8 0;1 8 0;7 0 -8;",
    "1 0 -8;1 0 -100;1 0 -100;5 8 0;1 8 0;4 7 0;3 0 -8;1 0 -8;1 0 -112;1 0 -112;1 0 -7;7 9 0;5 0 -128;",
    "1 0 -128;1 0 -126;1 0 -126;1 0 -9;12a 0 -7517;4 0 -8383;1 0 -8262;7 0 28;1c -28 0;12 0 16;1 0 16;",
    "1 0 16;1 0 16;1 0 16;1 0 16;1 0 16;1 0 16;1 0 16;1 0 16;1 0 16;1 0 16;1 0 16;1 0 16;1 0 16;1 0 16;",
    "1 -16 0;1 -16 0;1 -16 0;1 -16 0;1 -16 0;1 -16 0;1 -16 0;1 -16 0;1 -16 0;1 -16 0;1 -16 0;1 -16 0;",
    "1 -16 0;1 -16 0;1 -16 0;1 -16 0;4 0 1;1 -1 0;332 0 26;1 0 26;1 0 26;1 0 26;1 0 26;1 0 26;1 0 26;",
    "1 0 26;1 0 26;1 0 26;1 0 26;1 0 26;1 0 26;1 0 26;1 0 26;1 0 26;1 0 26;1 0 26;1 0 26;1 0 26;1 0 26;",
    "1 0 26;1 0 26;1 0 26;1 0 26;1 0 26;1 -26 0;1 -26 0;1 -26 0;1 -26 0;1 -26 0;1 -26 0;1 -26 0;1 -26 0;",
    "1 -26 0;1 -26 0;1 -26 0;1 -26 0;1 -26 0;1 -26 0;1 -26 0;1 -26 0;1 -26 0;1 -26 0;1 -26 0;1 -26 0;",
    "1 -26 0;1 -26 0;1 -26 0;1 -26 0;1 -26 0;1 -26 0;717 0 48;1 0 48;1 0 48;1 0 48;1 0 48;1 0 48;1 0 48;",
    "1 0 48;1 0 48;1 0 48;1 0 48;1 0 48;1 0 48;1 0 48;1 0 48;1 0 48;1 0 48;1 0 48;1 0 48;1 0 48;1 0 48;",
    "1 0 48;1 0 48;1 0 48;1 0 48;1 0 48;1 0 48;1 0 48;1 0 48;1 0 48;1 0 48;1 0 48;1 0 48;1 0 48;1 0 48;",
    "1 0 48;1 0 48;1 0 48;1 0 48;1 0 48;1 0 48;1 0 48;1 0 48;1 0 48;1 0 48;1 0 48;1 0 48;1 0 48;1 -48 0;",
    "1 -48 0;1 -48 0;1 -48 0;1 -48 0;1 -48 0;1 -48 0;1 -48 0;1 -48 0;1 -48 0;1 -48 0;1 -48 0;1 -48 0;",
    "1 -48 0;1 -48 0;1 -48 0;1 -48 0;1 -48 0;1 -48 0;1 -48 0;1 -48 0;1 -48 0;1 -48 0;1 -48 0;1 -48 0;",
    "1 -48 0;1 -48 0;1 -48 0;1 -48 0;1 -48 0;1 -48 0;1 -48 0;1 -48 0;1 -48 0;1 -48 0;1 -48 0;1 -48 0;",
    "1 -48 0;1 -48 0;1 -48 0;1 -48 0;1 -48 0;1 -48 0;1 -48 0;1 -48 0;1 -48 0;1 -48 0;1 -48 0;1 0 1;",
    "1 -1 0;1 0 -10743;1 0 -3814;1 0 -10727;1 -10795 0;1 -10792 0;1 0 1;1 -1 0;1 0 1;1 -1 0;1 0 1;1 -1 0;",
    "1 0 -10780;1 0 -10749;1 0 -10783;1 0 -10782;2 0 1;1 -1 0;2 0 1;1 -1 0;8 0 -10815;1 0 -10815;1 0 1;",
    "1 -1 0;1 0 1;1 -1 0;1 0 1;1 -1 0;1 0 1;1 -1 0;1 0 1;1 -1 0;1 0 1;1 -1 0;1 0 1;1 -1 0;1 0 1;1 -1 0;",
    "1 0 1;1 -1 0;1 0 1;1 -1 0;1 0 1;1 -1 0;1 0 1;1 -1 0;1 0 1;1 -1 0;1 0 1;1 -1 0;1 0 1;1 -1 0;1 0 1;",
    "1 -1 0;1 0 1;1 -1 0;1 0 1;1 -1 0;1 0 1;1 -1 0;1 0 1;1 -1 0;1 0 1;1 -1 0;1 0 1;1 -1 0;1 0 1;1 -1 0;",
    "1 0 1;1 -1 0;1 0 1;1 -1 0;1 0 1;1 -1 0;1 0 1;1 -1 0;1 0 1;1 -1 0;1 0 1;1 -1 0;1 0 1;1 -1 0;1 0 1;",
    "1 -1 0;1 0 1;1 -1 0;1 0 1;1 -1 0;1 0 1;1 -1 0;1 0 1;1 -1 0;1 0 1;1 -1 0;1 0 1;1 -1 0;1 0 1;1 -1 0;",
    "1 0 1;1 -1 0;1 0 1;1 -1 0;1 0 1;1 -1 0;1 0 1;1 -1 0;1 0 1;1 -1 0;1 0 1;1 -1 0;1 0 1;1 -1 0;1 0 1;",
    "1 -1 0;1 0 1;1 -1 0;1 0 1;1 -1 0;1 0 1;1 -1 0;1 0 1;1 -1 0;8 0 1;1 -1 0;1 0 1;1 -1 0;4 0 1;1 -1 0;",
    "d -7264 0;1 -7264 0;1 -7264 0;1 -7264 0;1 -7264 0;1 -7264 0;1 -7264 0;1 -7264 0;1 -7264 0;1 -7264 0;",
    "1 -7264 0;1 -7264 0;1 -7264 0;1 -7264 0;1 -7264 0;1 -7264 0;1 -7264 0;1 -7264 0;1 -7264 0;1 -7264 0;",
    "1 -7264 0;1 -7264 0;1 -7264 0;1 -7264 0;1 -7264 0;1 -7264 0;1 -7264 0;1 -7264 0;1 -7264 0;1 -7264 0;",
    "1 -7264 0;1 -7264 0;1 -7264 0;1 -7264 0;1 -7264 0;1 -7264 0;1 -7264 0;1 -7264 0;2 -7264 0;6 -7264 0;",
    "7913 0 1;1 -1 0;1 0 1;1 -1 0;1 0 1;1 -1 0;1 0 1;1 -1 0;1 0 1;1 -1 0;1 0 1;1 -1 0;1 0 1;1 -1 0;1 0 1;",
    "1 -1 0;1 0 1;1 -1 0;1 0 1;1 -1 0;1 0 1;1 -1 0;1 0 1;1 -1 0;1 0 1;1 -1 0;1 0 1;1 -1 0;1 0 1;1 -1 0;",
    "1 0 1;1 -1 0;1 0 1;1 -1 0;1 0 1;1 -1 0;1 0 1;1 -1 0;1 0 1;1 -1 0;1 0 1;1 -1 0;1 0 1;1 -1 0;1 0 1;",
    "1 -1 0;13 0 1;1 -1 0;1 0 1;1 -1 0;1 0 1;1 -1 0;1 0 1;1 -1 0;1 0 1;1 -1 0;1 0 1;1 -1 0;1 0 1;1 -1 0;",
    "1 0 1;1 -1 0;1 0 1;1 -1 0;1 0 1;1 -1 0;1 0 1;1 -1 0;1 0 1;1 -1 0;1 0 1;1 -1 0;1 0 1;1 -1 0;87 0 1;",
    "1 -1 0;1 0 1;1 -1 0;1 0 1;1 -1 0;1 0 1;1 -1 0;1 0 1;1 -1 0;1 0 1;1 -1 0;1 0 1;1 -1 0;3 0 1;1 -1 0;",
    "1 0 1;1 -1 0;1 0 1;1 -1 0;1 0 1;1 -1 0;1 0 1;1 -1 0;1 0 1;1 -1 0;1 0 1;1 -1 0;1 0 1;1 -1 0;1 0 1;",
    "1 -1 0;1 0 1;1 -1 0;1 0 1;1 -1 0;1 0 1;1 -1 0;1 0 1;1 -1 0;1 0 1;1 -1 0;1 0 1;1 -1 0;1 0 1;1 -1 0;",
    "1 0 1;1 -1 0;1 0 1;1 -1 0;1 0 1;1 -1 0;1 0 1;1 -1 0;1 0 1;1 -1 0;1 0 1;1 -1 0;1 0 1;1 -1 0;1 0 1;",
    "1 -1 0;1 0 1;1 -1 0;1 0 1;1 -1 0;1 0 1;1 -1 0;1 0 1;1 -1 0;1 0 1;1 -1 0;1 0 1;1 -1 0;1 0 1;1 -1 0;",
    "a 0 1;1 -1 0;1 0 1;1 -1 0;1 0 -35332;1 0 1;1 -1 0;1 0 1;1 -1 0;1 0 1;1 -1 0;1 0 1;1 -1 0;1 0 1;",
    "1 -1 0;4 0 1;1 -1 0;1 0 -42280;3 0 1;1 -1 0;1 0 1;1 -1 0;1 48 0;2 0 1;1 -1 0;1 0 1;1 -1 0;1 0 1;",
    "1 -1 0;1 0 1;1 -1 0;1 0 1;1 -1 0;1 0 1;1 -1 0;1 0 1;1 -1 0;1 0 1;1 -1 0;1 0 1;1 -1 0;1 0 1;1 -1 0;",
    "1 0 -42308;1 0 -42319;1 0 -42315;1 0 -42305;1 0 -42308;2 0 -42258;1 0 -42282;1 0 -42261;1 0 928;",
    "1 0 1;1 -1 0;1 0 1;1 -1 0;1 0 1;1 -1 0;1 0 1;1 -1 0;1 0 1;1 -1 0;1 0 1;1 -1 0;1 0 1;1 -1 0;1 0 1;",
    "1 -1 0;1 0 -48;1 0 -42307;1 0 -35384;1 0 1;1 -1 0;1 0 1;1 -1 0;1 0 -42343;1 0 1;1 -1 0;1 0 1;1 -1 0;",
    "1 0 1;1 -1 0;1 0 1;1 -1 0;1 0 1;1 -1 0;1 0 1;1 -1 0;1 0 1;1 -1 0;1 0 1;1 -1 0;1 0 -42561;19 0 1;",
    "1 -1 0;35d -928 0;1d -38864 0;1 -38864 0;1 -38864 0;1 -38864 0;1 -38864 0;1 -38864 0;1 -38864 0;",
    "1 -38864 0;1 -38864 0;1 -38864 0;1 -38864 0;1 -38864 0;1 -38864 0;1 -38864 0;1 -38864 0;1 -38864 0;",
    "1 -38864 0;1 -38864 0;1 -38864 0;1 -38864 0;1 -38864 0;1 -38864 0;1 -38864 0;1 -38864 0;1 -38864 0;",
    "1 -38864 0;1 -38864 0;1 -38864 0;1 -38864 0;1 -38864 0;1 -38864 0;1 -38864 0;1 -38864 0;1 -38864 0;",
    "1 -38864 0;1 -38864 0;1 -38864 0;1 -38864 0;1 -38864 0;1 -38864 0;1 -38864 0;1 -38864 0;1 -38864 0;",
    "1 -38864 0;1 -38864 0;1 -38864 0;1 -38864 0;1 -38864 0;1 -38864 0;1 -38864 0;1 -38864 0;1 -38864 0;",
    "1 -38864 0;1 -38864 0;1 -38864 0;1 -38864 0;1 -38864 0;1 -38864 0;1 -38864 0;1 -38864 0;1 -38864 0;",
    "1 -38864 0;1 -38864 0;1 -38864 0;1 -38864 0;1 -38864 0;1 -38864 0;1 -38864 0;1 -38864 0;1 -38864 0;",
    "1 -38864 0;1 -38864 0;1 -38864 0;1 -38864 0;1 -38864 0;1 -38864 0;1 -38864 0;1 -38864 0;1 -38864 0;",
    "1 -38864 0;5362 0 32;1 0 32;1 0 32;1 0 32;1 0 32;1 0 32;1 0 32;1 0 32;1 0 32;1 0 32;1 0 32;1 0 32;",
    "1 0 32;1 0 32;1 0 32;1 0 32;1 0 32;1 0 32;1 0 32;1 0 32;1 0 32;1 0 32;1 0 32;1 0 32;1 0 32;1 0 32;",
    "7 -32 0;1 -32 0;1 -32 0;1 -32 0;1 -32 0;1 -32 0;1 -32 0;1 -32 0;1 -32 0;1 -32 0;1 -32 0;1 -32 0;",
    "1 -32 0;1 -32 0;1 -32 0;1 -32 0;1 -32 0;1 -32 0;1 -32 0;1 -32 0;1 -32 0;1 -32 0;1 -32 0;1 -32 0;",
    "1 -32 0;1 -32 0;4a6 0 40;1 0 40;1 0 40;1 0 40;1 0 40;1 0 40;1 0 40;1 0 40;1 0 40;1 0 40;1 0 40;",
    "1 0 40;1 0 40;1 0 40;1 0 40;1 0 40;1 0 40;1 0 40;1 0 40;1 0 40;1 0 40;1 0 40;1 0 40;1 0 40;1 0 40;",
    "1 0 40;1 0 40;1 0 40;1 0 40;1 0 40;1 0 40;1 0 40;1 0 40;1 0 40;1 0 40;1 0 40;1 0 40;1 0 40;1 0 40;",
    "1 0 40;1 -40 0;1 -40 0;1 -40 0;1 -40 0;1 -40 0;1 -40 0;1 -40 0;1 -40 0;1 -40 0;1 -40 0;1 -40 0;",
    "1 -40 0;1 -40 0;1 -40 0;1 -40 0;1 -40 0;1 -40 0;1 -40 0;1 -40 0;1 -40 0;1 -40 0;1 -40 0;1 -40 0;",
    "1 -40 0;1 -40 0;1 -40 0;1 -40 0;1 -40 0;1 -40 0;1 -40 0;1 -40 0;1 -40 0;1 -40 0;1 -40 0;1 -40 0;",
    "1 -40 0;1 -40 0;1 -40 0;1 -40 0;1 -40 0;61 0 40;1 0 40;1 0 40;1 0 40;1 0 40;1 0 40;1 0 40;1 0 40;",
    "1 0 40;1 0 40;1 0 40;1 0 40;1 0 40;1 0 40;1 0 40;1 0 40;1 0 40;1 0 40;1 0 40;1 0 40;1 0 40;1 0 40;",
    "1 0 40;1 0 40;1 0 40;1 0 40;1 0 40;1 0 40;1 0 40;1 0 40;1 0 40;1 0 40;1 0 40;1 0 40;1 0 40;1 0 40;",
    "5 -40 0;1 -40 0;1 -40 0;1 -40 0;1 -40 0;1 -40 0;1 -40 0;1 -40 0;1 -40 0;1 -40 0;1 -40 0;1 -40 0;",
    "1 -40 0;1 -40 0;1 -40 0;1 -40 0;1 -40 0;1 -40 0;1 -40 0;1 -40 0;1 -40 0;1 -40 0;1 -40 0;1 -40 0;",
    "1 -40 0;1 -40 0;1 -40 0;1 -40 0;1 -40 0;1 -40 0;1 -40 0;1 -40 0;1 -40 0;1 -40 0;1 -40 0;1 -40 0;",
    "75 0 39;1 0 39;1 0 39;1 0 39;1 0 39;1 0 39;1 0 39;1 0 39;1 0 39;1 0 39;1 0 39;2 0 39;1 0 39;1 0 39;",
    "1 0 39;1 0 39;1 0 39;1 0 39;1 0 39;1 0 39;1 0 39;1 0 39;1 0 39;1 0 39;1 0 39;1 0 39;2 0 39;1 0 39;",
    "1 0 39;1 0 39;1 0 39;1 0 39;1 0 39;2 0 39;1 0 39;2 -39 0;1 -39 0;1 -39 0;1 -39 0;1 -39 0;1 -39 0;",
    "1 -39 0;1 -39 0;1 -39 0;1 -39 0;1 -39 0;2 -39 0;1 -39 0;1 -39 0;1 -39 0;1 -39 0;1 -39 0;1 -39 0;",
    "1 -39 0;1 -39 0;1 -39 0;1 -39 0;1 -39 0;1 -39 0;1 -39 0;1 -39 0;2 -39 0;1 -39 0;1 -39 0;1 -39 0;",
    "1 -39 0;1 -39 0;1 -39 0;2 -39 0;1 -39 0;6c4 0 64;1 0 64;1 0 64;1 0 64;1 0 64;1 0 64;1 0 64;1 0 64;",
    "1 0 64;1 0 64;1 0 64;1 0 64;1 0 64;1 0 64;1 0 64;1 0 64;1 0 64;1 0 64;1 0 64;1 0 64;1 0 64;1 0 64;",
    "1 0 64;1 0 64;1 0 64;1 0 64;1 0 64;1 0 64;1 0 64;1 0 64;1 0 64;1 0 64;1 0 64;1 0 64;1 0 64;1 0 64;",
    "1 0 64;1 0 64;1 0 64;1 0 64;1 0 64;1 0 64;1 0 64;1 0 64;1 0 64;1 0 64;1 0 64;1 0 64;1 0 64;1 0 64;",
    "1 0 64;e -64 0;1 -64 0;1 -64 0;1 -64 0;1 -64 0;1 -64 0;1 -64 0;1 -64 0;1 -64 0;1 -64 0;1 -64 0;",
    "1 -64 0;1 -64 0;1 -64 0;1 -64 0;1 -64 0;1 -64 0;1 -64 0;1 -64 0;1 -64 0;1 -64 0;1 -64 0;1 -64 0;",
    "1 -64 0;1 -64 0;1 -64 0;1 -64 0;1 -64 0;1 -64 0;1 -64 0;1 -64 0;1 -64 0;1 -64 0;1 -64 0;1 -64 0;",
    "1 -64 0;1 -64 0;1 -64 0;1 -64 0;1 -64 0;1 -64 0;1 -64 0;1 -64 0;1 -64 0;1 -64 0;1 -64 0;1 -64 0;",
    "1 -64 0;1 -64 0;1 -64 0;1 -64 0;5e 0 32;1 0 32;1 0 32;1 0 32;1 0 32;1 0 32;1 0 32;1 0 32;1 0 32;",
    "1 0 32;1 0 32;1 0 32;1 0 32;1 0 32;1 0 32;1 0 32;1 0 32;1 0 32;1 0 32;1 0 32;1 0 32;1 0 32;b -32 0;",
    "1 -32 0;1 -32 0;1 -32 0;1 -32 0;1 -32 0;1 -32 0;1 -32 0;1 -32 0;1 -32 0;1 -32 0;1 -32 0;1 -32 0;",
    "1 -32 0;1 -32 0;1 -32 0;1 -32 0;1 -32 0;1 -32 0;1 -32 0;1 -32 0;1 -32 0;b1b 0 32;1 0 32;1 0 32;",
    "1 0 32;1 0 32;1 0 32;1 0 32;1 0 32;1 0 32;1 0 32;1 0 32;1 0 32;1 0 32;1 0 32;1 0 32;1 0 32;1 0 32;",
    "1 0 32;1 0 32;1 0 32;1 0 32;1 0 32;1 0 32;1 0 32;1 0 32;1 0 32;1 0 32;1 0 32;1 0 32;1 0 32;1 0 32;",
    "1 0 32;1 -32 0;1 -32 0;1 -32 0;1 -32 0;1 -32 0;1 -32 0;1 -32 0;1 -32 0;1 -32 0;1 -32 0;1 -32 0;",
    "1 -32 0;1 -32 0;1 -32 0;1 -32 0;1 -32 0;1 -32 0;1 -32 0;1 -32 0;1 -32 0;1 -32 0;1 -32 0;1 -32 0;",
    "1 -32 0;1 -32 0;1 -32 0;1 -32 0;1 -32 0;1 -32 0;1 -32 0;1 -32 0;1 -32 0;5561 0 32;1 0 32;1 0 32;",
    "1 0 32;1 0 32;1 0 32;1 0 32;1 0 32;1 0 32;1 0 32;1 0 32;1 0 32;1 0 32;1 0 32;1 0 32;1 0 32;1 0 32;",
    "1 0 32;1 0 32;1 0 32;1 0 32;1 0 32;1 0 32;1 0 32;1 0 32;1 0 32;1 0 32;1 0 32;1 0 32;1 0 32;1 0 32;",
    "1 0 32;1 -32 0;1 -32 0;1 -32 0;1 -32 0;1 -32 0;1 -32 0;1 -32 0;1 -32 0;1 -32 0;1 -32 0;1 -32 0;",
    "1 -32 0;1 -32 0;1 -32 0;1 -32 0;1 -32 0;1 -32 0;1 -32 0;1 -32 0;1 -32 0;1 -32 0;1 -32 0;1 -32 0;",
    "1 -32 0;1 -32 0;1 -32 0;1 -32 0;1 -32 0;1 -32 0;1 -32 0;1 -32 0;1 -32 0;7a81 0 34;1 0 34;1 0 34;",
    "1 0 34;1 0 34;1 0 34;1 0 34;1 0 34;1 0 34;1 0 34;1 0 34;1 0 34;1 0 34;1 0 34;1 0 34;1 0 34;1 0 34;",
    "1 0 34;1 0 34;1 0 34;1 0 34;1 0 34;1 0 34;1 0 34;1 0 34;1 0 34;1 0 34;1 0 34;1 0 34;1 0 34;1 0 34;",
    "1 0 34;1 0 34;1 0 34;1 -34 0;1 -34 0;1 -34 0;1 -34 0;1 -34 0;1 -34 0;1 -34 0;1 -34 0;1 -34 0;",
    "1 -34 0;1 -34 0;1 -34 0;1 -34 0;1 -34 0;1 -34 0;1 -34 0;1 -34 0;1 -34 0;1 -34 0;1 -34 0;1 -34 0;",
    "1 -34 0;1 -34 0;1 -34 0;1 -34 0;1 -34 0;1 -34 0;1 -34 0;1 -34 0;1 -34 0;1 -34 0;1 -34 0;1 -34 0;",
    "1 -34 0"]

end Text

end Timebox
