/-!
# Classes of characters in domain names

Which characters are marks, in which direction characters run and how they join their neighbours.
The tables hold ranges of code points beyond ASCII; they may run across code points that no domain
holds.  They are texts of rows: blanks separate rows, points the hexadecimal numbers of a row.
-/

namespace SignIn.Domain

/-- Marks that take no room of their own. -/
def nonspacingMarks : String :=
  "300.36f 483.489 591.5bd 5bf.5bf 5c1.5c2 5c4.5c5 5c7.5c7 610.61a 64b.65f 670.670 6d6.6dc 6df.6e4
6e7.6e8 6ea.6ed 711.711 730.74a 7a6.7b0 7eb.7f3 7fd.7fd 816.819 81b.823 825.827 829.82d 859.85b
897.89f 8ca.902 93a.93a 93c.93c 941.948 94d.94d 951.957 962.963 981.981 9bc.9bc 9c1.9c4 9cd.9cd
9e2.9e3 9fe.a02 a3c.a3c a41.a51 a70.a71 a75.a75 a81.a82 abc.abc ac1.ac8 acd.acd ae2.ae3 afa.b01
b3c.b3c b3f.b3f b41.b44 b4d.b56 b62.b63 b82.b82 bc0.bc0 bcd.bcd c00.c00 c04.c04 c3c.c3c c3e.c40
c46.c56 c62.c63 c81.c81 cbc.cbc ccc.ccd ce2.ce3 d00.d01 d3b.d3c d41.d44 d4d.d4d d62.d63 d81.d81
dca.dca dd2.dd6 e31.e31 e34.e3a e47.e4e eb1.eb1 eb4.ebc ec8.ece f18.f19 f35.f35 f37.f37 f39.f39
f71.f7e f80.f84 f86.f87 f8d.fbc fc6.fc6 102d.1030 1032.1037 1039.103a 103d.103e 1058.1059
105e.1060 1071.1074 1082.1082 1085.1086 108d.108d 109d.109d 135d.135f 1712.1714 1732.1733
1752.1753 1772.1773 17b7.17bd 17c6.17c6 17c9.17d3 17dd.17dd 1885.1886 18a9.18a9 1920.1922
1927.1928 1932.1932 1939.193b 1a17.1a18 1a1b.1a1b 1a56.1a56 1a58.1a60 1a62.1a62 1a65.1a6c
1a73.1a7f 1ab0.1b03 1b34.1b34 1b36.1b3a 1b3c.1b3c 1b42.1b42 1b6b.1b73 1b80.1b81 1ba2.1ba5
1ba8.1ba9 1bab.1bad 1be6.1be6 1be8.1be9 1bed.1bed 1bef.1bf1 1c2c.1c33 1c36.1c37 1cd0.1cd2
1cd4.1ce0 1ce2.1ce8 1ced.1ced 1cf4.1cf4 1cf8.1cf9 1dc0.1dff 20d0.20f0 2cef.2cf1 2d7f.2d7f
2de0.2dff 302a.302d 3099.309a a66f.a672 a674.a67d a69e.a69f a6f0.a6f1 a802.a802 a806.a806
a80b.a80b a825.a826 a82c.a82c a8c4.a8c5 a8e0.a8f1 a8ff.a8ff a926.a92d a947.a951 a980.a982
a9b3.a9b3 a9b6.a9b9 a9bc.a9bd a9e5.a9e5 aa29.aa2e aa31.aa32 aa35.aa36 aa43.aa43 aa4c.aa4c
aa7c.aa7c aab0.aab0 aab2.aab4 aab7.aab8 aabe.aabf aac1.aac1 aaec.aaed aaf6.aaf6 abe5.abe5
abe8.abe8 abed.abed fb1e.fb1e fe20.fe2f 101fd.101fd 102e0.102e0 10376.1037a 10a01.10a0f
10a38.10a3f 10ae5.10ae6 10d24.10d27 10d69.10d6d 10eab.10eac 10efa.10eff 10f46.10f50 10f82.10f85
11001.11001 11038.11046 11070.11070 11073.11074 1107f.11081 110b3.110b6 110b9.110ba 110c2.110c2
11100.11102 11127.1112b 1112d.11134 11173.11173 11180.11181 111b6.111be 111c9.111cc 111cf.111cf
1122f.11231 11234.11234 11236.11237 1123e.1123e 11241.11241 112df.112df 112e3.112ea 11300.11301
1133b.1133c 11340.11340 11366.11374 113bb.113c0 113ce.113ce 113d0.113d0 113d2.113d2 113e1.113e2
11438.1143f 11442.11444 11446.11446 1145e.1145e 114b3.114b8 114ba.114ba 114bf.114c0 114c2.114c3
115b2.115b5 115bc.115bd 115bf.115c0 115dc.115dd 11633.1163a 1163d.1163d 1163f.11640 116ab.116ab
116ad.116ad 116b0.116b5 116b7.116b7 1171d.1171f 11722.11725 11727.1172b 1182f.11837 11839.1183a
1193b.1193c 1193e.1193e 11943.11943 119d4.119db 119e0.119e0 11a01.11a06 11a09.11a0a 11a33.11a38
11a3b.11a3e 11a47.11a47 11a51.11a56 11a59.11a5b 11a8a.11a96 11a98.11a99 11b60.11b60 11b62.11b64
11b66.11b66 11c30.11c3d 11c92.11ca7 11caa.11cb0 11cb2.11cb3 11cb5.11cb6 11d31.11d45 11d47.11d47
11d90.11d91 11d95.11d95 11d97.11d97 11ef3.11ef4 11f00.11f01 11f36.11f3a 11f40.11f40 11f42.11f42
11f5a.11f5a 13440.13440 13447.13455 1611e.16129 1612d.1612f 16af0.16af4 16b30.16b36 16f4f.16f4f
16f8f.16f92 16fe4.16fe4 1bc9d.1bc9e 1cf00.1cf46 1d167.1d169 1d17b.1d182 1d185.1d18b 1d1aa.1d1ad
1d242.1d244 1da00.1da36 1da3b.1da6c 1da75.1da75 1da84.1da84 1da9b.1daaf 1e000.1e08f 1e130.1e136
1e2ae.1e2ae 1e2ec.1e2ef 1e4ec.1e4ef 1e5ee.1e5ef 1e6e3.1e6e3 1e6e6.1e6e6 1e6ee.1e6ef 1e6f5.1e6f5
1e8d0.1e8d6 1e944.1e94a"

/-- Other marks. -/
def spacingMarks : String :=
  "903.903 93b.93b 93e.940 949.94c 94e.94f 982.983 9be.9c0 9c7.9cc 9d7.9d7 a03.a03 a3e.a40 a83.a83
abe.ac0 ac9.acc b02.b03 b3e.b3e b40.b40 b47.b4c b57.b57 bbe.bbf bc1.bcc bd7.bd7 c01.c03 c41.c44
c82.c83 cbe.ccb cd5.cd6 cf3.cf3 d02.d03 d3e.d40 d46.d4c d57.d57 d82.d83 dcf.dd1 dd8.ddf df2.df3
f3e.f3f f7f.f7f 102b.102c 1031.1031 1038.1038 103b.103c 1056.1057 1062.1064 1067.106d 1083.1084
1087.108c 108f.108f 109a.109c 1715.1715 1734.1734 17b6.17b6 17be.17c5 17c7.17c8 1923.1926
1929.1931 1933.1938 1a19.1a1a 1a55.1a55 1a57.1a57 1a61.1a61 1a63.1a64 1a6d.1a72 1b04.1b04
1b35.1b35 1b3b.1b3b 1b3d.1b41 1b43.1b44 1b82.1b82 1ba1.1ba1 1ba6.1ba7 1baa.1baa 1be7.1be7
1bea.1bec 1bee.1bee 1bf2.1bf3 1c24.1c2b 1c34.1c35 1ce1.1ce1 1cf7.1cf7 302e.302f a823.a824
a827.a827 a880.a881 a8b4.a8c3 a952.a953 a983.a983 a9b4.a9b5 a9ba.a9bb a9be.a9c0 aa2f.aa30
aa33.aa34 aa4d.aa4d aa7b.aa7b aa7d.aa7d aaeb.aaeb aaee.aaef aaf5.aaf5 abe3.abe4 abe6.abe7
abe9.abea abec.abec 11000.11000 11002.11002 11082.11082 110b0.110b2 110b7.110b8 1112c.1112c
11145.11146 11182.11182 111b3.111b5 111bf.111c0 111ce.111ce 1122c.1122e 11232.11233 11235.11235
112e0.112e2 11302.11303 1133e.1133f 11341.1134d 11357.11357 11362.11363 113b8.113ba 113c2.113cd
113cf.113cf 11435.11437 11440.11441 11445.11445 114b0.114b2 114b9.114b9 114bb.114be 114c1.114c1
115af.115b1 115b8.115bb 115be.115be 11630.11632 1163b.1163c 1163e.1163e 116ac.116ac 116ae.116af
116b6.116b6 11720.11721 11726.11726 1182c.1182e 11838.11838 11930.11938 1193d.1193d 11940.11940
11942.11942 119d1.119d3 119dc.119df 119e4.119e4 11a07.11a08 11a39.11a39 11a57.11a58 11a97.11a97
11b61.11b61 11b65.11b65 11b67.11b67 11c2f.11c2f 11c3e.11c3f 11ca9.11ca9 11cb1.11cb1 11cb4.11cb4
11d8a.11d8e 11d93.11d94 11d96.11d96 11ef5.11ef6 11f03.11f03 11f34.11f35 11f3e.11f3f 11f41.11f41
1612a.1612c 16f51.16f87 16ff0.16ff1 1d165.1d166 1d16d.1d172"

/-- Letters that run from right to left. -/
def rightToLeft : String :=
  "5be.5be 5c0.5c0 5c3.5c3 5c6.5c6 5d0.5f4 608.608 60b.60b 60d.60d 61b.64a 66d.66f 671.6d5 6e5.6e6
6ee.6ef 6fa.710 712.72f 74d.7a5 7b1.7ea 7f4.7f5 7fa.7fa 7fe.815 81a.81a 824.824 828.828 830.858
85e.88f 8a0.8c9 fbb2.fbd2 fd90.fdce fe73.fe73 10800.1091b 10920.10a00 10a10.10a35 10a40.10ae4
10aeb.10b35 10b40.10d23 10d40.10d4f 10d6e.10d8f 10e80.10ea9 10ead.10ed8 10f00.10f45 10f51.10f81
10f86.10ff6 1e800.1e8cf 1e922.1e943 1e94b.1ed3d"

/-- Digits of numbers inside text that runs from right to left. -/
def arabicDigits : String :=
  "660.669 66b.66c 10d30.10d39 10e60.10e7e"

/-- Digits of European numbers. -/
def europeanDigits : String :=
  "6f0.6f9 102e1.102fb"

/-- Characters without a direction of their own. -/
def neutrals : String :=
  "a1.d7 f7.f7 2b9.2ba 2c2.2cf 2d2.2ed 2ef.2ff 375.375 3f6.3f6 58a.58f 606.607 609.60a 60c.60c
60e.60f 66a.66a 6de.6de 6e9.6e9 7f6.7f9 9f2.9f3 9fb.9fb af1.af1 bf3.bfa c78.c7e e3f.e3f f3a.f3d
1390.1399 1400.1400 169b.169c 17db.17db 17f0.180a 1940.1945 19de.19ff 1b4e.1b4f 1b7f.1b7f
200c.20c1 2104.214d 218a.2335 237b.2394 2396.26ab 26ad.27ff 2900.2bff 2ce5.2cea 2cf9.2cff
2e00.3004 3008.3020 3030.3030 3037.3037 303d.303f 30a0.30a0 30fb.30fb 31c0.31e5 4dc0.4dff
a490.a4c6 a60d.a60f a673.a673 a67e.a67f a700.a721 a788.a788 a828.a82b a838.a839 a874.a877
ab6a.ab6b fd3e.fd4f fdcf.fdff fe45.fe46 10101.10101 10140.1018c 10190.101a0 1091f.1091f
10b39.10b3f 11052.11065 113d4.113d8 11660.1166c 11be1.11be1 11fd5.11ff1 16d6d.16d6f 16fe2.16fe2
1cc00.1cef0 1d1e9.1d241 1d245.1d245 1d300.1d356 1e2ff.1e2ff 1e5ff.1e5ff 1eef0.1f12f 1f16d.1f16f
1f1ad.1f1ad 1f260.1fbfa"

/-- Letters that join both neighbours. -/
def dualJoining : String :=
  "620.620 626.626 628.628 62a.62e 633.63f 641.647 649.64a 66e.66f 679.687 69a.6bf 6c1.6c2 6cc.6cc
6ce.6ce 6d0.6d1 6fa.6fc 6ff.6ff 712.714 71a.71d 71f.727 729.729 72b.72b 72d.72e 74e.758 75c.76a
76d.770 772.772 775.777 77a.77f 7ca.7ea 841.845 848.848 84a.853 855.855 860.860 862.865 868.868
886.886 889.88d 88f.88f 8a0.8a9 8af.8b0 8b3.8b8 8ba.8c8 1807.1807 1820.1878 1887.18a8 18aa.18aa
a840.a871 10ac0.10ac4 10ad3.10ad6 10ad8.10adc 10ade.10ae0 10aeb.10aee 10b80.10b80 10b82.10b82
10b86.10b88 10b8a.10b8b 10b8d.10b8d 10b90.10b90 10bad.10bae 10d01.10d21 10d23.10d23 10ec3.10ec4
10ec6.10ec7 10f30.10f32 10f34.10f44 10f51.10f53 10f70.10f73 10f76.10f81 10fb0.10fb0 10fb2.10fb3
10fb8.10fb8 10fbb.10fbc 10fbe.10fbf 10fc1.10fc1 10fc4.10fc4 10fca.10fca 1e922.1e943"

/-- Letters that join the one on their right only. -/
def rightJoining : String :=
  "622.625 627.627 629.629 62f.632 648.648 671.673 688.699 6c0.6c0 6c3.6cb 6cd.6cd 6cf.6cf 6d2.6d3
6d5.6d5 6ee.6ef 710.710 715.719 71e.71e 728.728 72a.72a 72c.72c 72f.72f 74d.74d 759.75b 76b.76c
771.771 773.774 778.779 840.840 846.847 849.849 854.854 856.858 867.867 869.882 88e.88e 8aa.8ac
8ae.8ae 8b1.8b2 8b9.8b9 10ac5.10ac5 10ac7.10ac7 10ac9.10aca 10ace.10ad2 10add.10add 10ae1.10ae1
10ae4.10ae4 10aef.10aef 10b81.10b81 10b83.10b85 10b89.10b89 10b8c.10b8c 10b8e.10b8f 10b91.10b91
10ba9.10bac 10d22.10d22 10ec2.10ec2 10f33.10f33 10f54.10f54 10f74.10f75 10fb4.10fb6 10fb9.10fba
10fbd.10fbd 10fc2.10fc3 10fc9.10fc9"

/-- Letters that join the one on their left only. -/
def leftJoining : String :=
  "a872.a872 10acd.10acd 10ad7.10ad7 10d00.10d00 10fcb.10fcb"

end SignIn.Domain
