import ProposalCheck.Text.CodeTable

/-!
# Composed form

A letter with marks may be written in several ways: as one character, or as a letter that marks
follow, and marks that do not interact may stand in any order. Of all ways that mean the same, the
composed form puts the marks in a fixed order and uses one character wherever there is one.

## Main definitions

* `combiningClass`: the class by which marks are put in order; zero for what is no mark
* `composedPairs`, `notComposed`: the characters that stand for two others, and those that never
  occur in composed form
* `Composition.ofText`: the composed form of a text
* `isComposed`: is a text in composed form?
-/

namespace ProposalCheck

/-- A run of marks of one class: the last of the run and the class. -/
structure MarkRun where
  last : Nat
  order : Nat

/-- The marks with their classes, written `first-last/class`. -/
def markRuns : CodeTable MarkRun :=
  (tableWords
  "300-314/e6 315-315/e8 316-319/dc 31a-31a/e8 31b-31b/d8 31c-320/dc 321-322/ca 323-326/dc
  327-328/ca 329-333/dc 334-338/1 339-33c/dc 33d-344/e6 345-345/f0 346-346/e6 347-349/dc
  34a-34c/e6 34d-34e/dc 350-352/e6 353-356/dc 357-357/e6 358-358/e8 359-35a/dc 35b-35b/e6
  35c-35c/e9 35d-35e/ea 35f-35f/e9 360-361/ea 362-362/e9 363-36f/e6 483-487/e6 591-591/dc
  592-595/e6 596-596/dc 597-599/e6 59a-59a/de 59b-59b/dc 59c-5a1/e6 5a2-5a7/dc 5a8-5a9/e6
  5aa-5aa/dc 5ab-5ac/e6 5ad-5ad/de 5ae-5ae/e4 5af-5af/e6 5b0-5b0/a 5b1-5b1/b 5b2-5b2/c
  5b3-5b3/d 5b4-5b4/e 5b5-5b5/f 5b6-5b6/10 5b7-5b7/11 5b8-5b8/12 5b9-5ba/13 5bb-5bb/14
  5bc-5bc/15 5bd-5bd/16 5bf-5bf/17 5c1-5c1/18 5c2-5c2/19 5c4-5c4/e6 5c5-5c5/dc 5c7-5c7/12
  610-617/e6 618-618/1e 619-619/1f 61a-61a/20 64b-64b/1b 64c-64c/1c 64d-64d/1d 64e-64e/1e
  64f-64f/1f 650-650/20 651-651/21 652-652/22 653-654/e6 655-656/dc 657-65b/e6 65c-65c/dc
  65d-65e/e6 65f-65f/dc 670-670/23 6d6-6dc/e6 6df-6e2/e6 6e3-6e3/dc 6e4-6e4/e6 6e7-6e8/e6
  6ea-6ea/dc 6eb-6ec/e6 6ed-6ed/dc 711-711/24 730-730/e6 731-731/dc 732-733/e6 734-734/dc
  735-736/e6 737-739/dc 73a-73a/e6 73b-73c/dc 73d-73d/e6 73e-73e/dc 73f-741/e6 742-742/dc
  743-743/e6 744-744/dc 745-745/e6 746-746/dc 747-747/e6 748-748/dc 749-74a/e6 7eb-7f1/e6
  7f2-7f2/dc 7f3-7f3/e6 7fd-7fd/dc 816-819/e6 81b-823/e6 825-827/e6 829-82d/e6 859-85b/dc
  898-898/e6 899-89b/dc 89c-89f/e6 8ca-8ce/e6 8cf-8d3/dc 8d4-8e1/e6 8e3-8e3/dc 8e4-8e5/e6
  8e6-8e6/dc 8e7-8e8/e6 8e9-8e9/dc 8ea-8ec/e6 8ed-8ef/dc 8f0-8f0/1b 8f1-8f1/1c 8f2-8f2/1d
  8f3-8f5/e6 8f6-8f6/dc 8f7-8f8/e6 8f9-8fa/dc 8fb-8ff/e6 93c-93c/7 94d-94d/9 951-951/e6
  952-952/dc 953-954/e6 9bc-9bc/7 9cd-9cd/9 9fe-9fe/e6 a3c-a3c/7 a4d-a4d/9 abc-abc/7 acd-acd/9
  b3c-b3c/7 b4d-b4d/9 bcd-bcd/9 c3c-c3c/7 c4d-c4d/9 c55-c55/54 c56-c56/5b cbc-cbc/7 ccd-ccd/9
  d3b-d3c/9 d4d-d4d/9 dca-dca/9 e38-e39/67 e3a-e3a/9 e48-e4b/6b eb8-eb9/76 eba-eba/9
  ec8-ecb/7a f18-f19/dc f35-f35/dc f37-f37/dc f39-f39/d8 f71-f71/81 f72-f72/82 f74-f74/84
  f7a-f7d/82 f80-f80/82 f82-f83/e6 f84-f84/9 f86-f87/e6 fc6-fc6/dc 1037-1037/7 1039-103a/9
  108d-108d/dc 135d-135f/e6 1714-1715/9 1734-1734/9 17d2-17d2/9 17dd-17dd/e6 18a9-18a9/e4
  1939-1939/de 193a-193a/e6 193b-193b/dc 1a17-1a17/e6 1a18-1a18/dc 1a60-1a60/9 1a75-1a7c/e6
  1a7f-1a7f/dc 1ab0-1ab4/e6 1ab5-1aba/dc 1abb-1abc/e6 1abd-1abd/dc 1abf-1ac0/dc 1ac1-1ac2/e6
  1ac3-1ac4/dc 1ac5-1ac9/e6 1aca-1aca/dc 1acb-1ace/e6 1b34-1b34/7 1b44-1b44/9 1b6b-1b6b/e6
  1b6c-1b6c/dc 1b6d-1b73/e6 1baa-1bab/9 1be6-1be6/7 1bf2-1bf3/9 1c37-1c37/7 1cd0-1cd2/e6
  1cd4-1cd4/1 1cd5-1cd9/dc 1cda-1cdb/e6 1cdc-1cdf/dc 1ce0-1ce0/e6 1ce2-1ce8/1 1ced-1ced/dc
  1cf4-1cf4/e6 1cf8-1cf9/e6 1dc0-1dc1/e6 1dc2-1dc2/dc 1dc3-1dc9/e6 1dca-1dca/dc 1dcb-1dcc/e6
  1dcd-1dcd/ea 1dce-1dce/d6 1dcf-1dcf/dc 1dd0-1dd0/ca 1dd1-1df5/e6 1df6-1df6/e8 1df7-1df8/e4
  1df9-1df9/dc 1dfa-1dfa/da 1dfb-1dfb/e6 1dfc-1dfc/e9 1dfd-1dfd/dc 1dfe-1dfe/e6 1dff-1dff/dc
  20d0-20d1/e6 20d2-20d3/1 20d4-20d7/e6 20d8-20da/1 20db-20dc/e6 20e1-20e1/e6 20e5-20e6/1
  20e7-20e7/e6 20e8-20e8/dc 20e9-20e9/e6 20ea-20eb/1 20ec-20ef/dc 20f0-20f0/e6 2cef-2cf1/e6
  2d7f-2d7f/9 2de0-2dff/e6 302a-302a/da 302b-302b/e4 302c-302c/e8 302d-302d/de 302e-302f/e0
  3099-309a/8 a66f-a66f/e6 a674-a67d/e6 a69e-a69f/e6 a6f0-a6f1/e6 a806-a806/9 a82c-a82c/9
  a8c4-a8c4/9 a8e0-a8f1/e6 a92b-a92d/dc a953-a953/9 a9b3-a9b3/7 a9c0-a9c0/9 aab0-aab0/e6
  aab2-aab3/e6 aab4-aab4/dc aab7-aab8/e6 aabe-aabf/e6 aac1-aac1/e6 aaf6-aaf6/9 abed-abed/9
  fb1e-fb1e/1a fe20-fe26/e6 fe27-fe2d/dc fe2e-fe2f/e6 101fd-101fd/dc 102e0-102e0/dc
  10376-1037a/e6 10a0d-10a0d/dc 10a0f-10a0f/e6 10a38-10a38/e6 10a39-10a39/1 10a3a-10a3a/dc
  10a3f-10a3f/9 10ae5-10ae5/e6 10ae6-10ae6/dc 10d24-10d27/e6 10eab-10eac/e6 10f46-10f47/dc
  10f48-10f4a/e6 10f4b-10f4b/dc 10f4c-10f4c/e6 10f4d-10f50/dc 10f82-10f82/e6 10f83-10f83/dc
  10f84-10f84/e6 10f85-10f85/dc 11046-11046/9 11070-11070/9 1107f-1107f/9 110b9-110b9/9
  110ba-110ba/7 11100-11102/e6 11133-11134/9 11173-11173/7 111c0-111c0/9 111ca-111ca/7
  11235-11235/9 11236-11236/7 112e9-112e9/7 112ea-112ea/9 1133b-1133c/7 1134d-1134d/9
  11366-1136c/e6 11370-11374/e6 11442-11442/9 11446-11446/7 1145e-1145e/e6 114c2-114c2/9
  114c3-114c3/7 115bf-115bf/9 115c0-115c0/7 1163f-1163f/9 116b6-116b6/9 116b7-116b7/7
  1172b-1172b/9 11839-11839/9 1183a-1183a/7 1193d-1193e/9 11943-11943/7 119e0-119e0/9
  11a34-11a34/9 11a47-11a47/9 11a99-11a99/9 11c3f-11c3f/9 11d42-11d42/7 11d44-11d45/9
  11d97-11d97/9 16af0-16af4/1 16b30-16b36/e6 16ff0-16ff1/6 1bc9e-1bc9e/1 1d165-1d166/d8
  1d167-1d169/1 1d16d-1d16d/e2 1d16e-1d172/d8 1d17b-1d182/dc 1d185-1d189/e6 1d18a-1d18b/dc
  1d1aa-1d1ad/e6 1d242-1d244/e6 1e000-1e006/e6 1e008-1e018/e6 1e01b-1e021/e6 1e023-1e024/e6
  1e026-1e02a/e6 1e130-1e136/e6 1e2ae-1e2ae/e6 1e2ec-1e2ef/e6 1e8d0-1e8d6/dc 1e944-1e949/e6
  1e94a-1e94a/7").toArray.map
    fun word => match (splitWhere (fun c => c = '-' || c = '/') word).map hexValue with
      | [first, last, order] => (first, ⟨last, order⟩)
      | _ => (0, ⟨0, 0⟩)

/-- The class by which a mark is put in order; zero for what is no mark. -/
def combiningClass (code : Nat) : Nat :=
  match markRuns.last? code with
  | some (_, run) => if code ≤ run.last then run.order else 0
  | none => 0

/-- The characters that stand for two others, written `whole/first/second`. -/
def composedPairs : CodeTable (Nat × Nat) :=
  (tableWords
  "c0/41/300 c1/41/301 c2/41/302 c3/41/303 c4/41/308 c5/41/30a c7/43/327 c8/45/300 c9/45/301
  ca/45/302 cb/45/308 cc/49/300 cd/49/301 ce/49/302 cf/49/308 d1/4e/303 d2/4f/300 d3/4f/301
  d4/4f/302 d5/4f/303 d6/4f/308 d9/55/300 da/55/301 db/55/302 dc/55/308 dd/59/301 e0/61/300
  e1/61/301 e2/61/302 e3/61/303 e4/61/308 e5/61/30a e7/63/327 e8/65/300 e9/65/301 ea/65/302
  eb/65/308 ec/69/300 ed/69/301 ee/69/302 ef/69/308 f1/6e/303 f2/6f/300 f3/6f/301 f4/6f/302
  f5/6f/303 f6/6f/308 f9/75/300 fa/75/301 fb/75/302 fc/75/308 fd/79/301 ff/79/308 100/41/304
  101/61/304 102/41/306 103/61/306 104/41/328 105/61/328 106/43/301 107/63/301 108/43/302
  109/63/302 10a/43/307 10b/63/307 10c/43/30c 10d/63/30c 10e/44/30c 10f/64/30c 112/45/304
  113/65/304 114/45/306 115/65/306 116/45/307 117/65/307 118/45/328 119/65/328 11a/45/30c
  11b/65/30c 11c/47/302 11d/67/302 11e/47/306 11f/67/306 120/47/307 121/67/307 122/47/327
  123/67/327 124/48/302 125/68/302 128/49/303 129/69/303 12a/49/304 12b/69/304 12c/49/306
  12d/69/306 12e/49/328 12f/69/328 130/49/307 134/4a/302 135/6a/302 136/4b/327 137/6b/327
  139/4c/301 13a/6c/301 13b/4c/327 13c/6c/327 13d/4c/30c 13e/6c/30c 143/4e/301 144/6e/301
  145/4e/327 146/6e/327 147/4e/30c 148/6e/30c 14c/4f/304 14d/6f/304 14e/4f/306 14f/6f/306
  150/4f/30b 151/6f/30b 154/52/301 155/72/301 156/52/327 157/72/327 158/52/30c 159/72/30c
  15a/53/301 15b/73/301 15c/53/302 15d/73/302 15e/53/327 15f/73/327 160/53/30c 161/73/30c
  162/54/327 163/74/327 164/54/30c 165/74/30c 168/55/303 169/75/303 16a/55/304 16b/75/304
  16c/55/306 16d/75/306 16e/55/30a 16f/75/30a 170/55/30b 171/75/30b 172/55/328 173/75/328
  174/57/302 175/77/302 176/59/302 177/79/302 178/59/308 179/5a/301 17a/7a/301 17b/5a/307
  17c/7a/307 17d/5a/30c 17e/7a/30c 1a0/4f/31b 1a1/6f/31b 1af/55/31b 1b0/75/31b 1cd/41/30c
  1ce/61/30c 1cf/49/30c 1d0/69/30c 1d1/4f/30c 1d2/6f/30c 1d3/55/30c 1d4/75/30c 1d5/dc/304
  1d6/fc/304 1d7/dc/301 1d8/fc/301 1d9/dc/30c 1da/fc/30c 1db/dc/300 1dc/fc/300 1de/c4/304
  1df/e4/304 1e0/226/304 1e1/227/304 1e2/c6/304 1e3/e6/304 1e6/47/30c 1e7/67/30c 1e8/4b/30c
  1e9/6b/30c 1ea/4f/328 1eb/6f/328 1ec/1ea/304 1ed/1eb/304 1ee/1b7/30c 1ef/292/30c 1f0/6a/30c
  1f4/47/301 1f5/67/301 1f8/4e/300 1f9/6e/300 1fa/c5/301 1fb/e5/301 1fc/c6/301 1fd/e6/301
  1fe/d8/301 1ff/f8/301 200/41/30f 201/61/30f 202/41/311 203/61/311 204/45/30f 205/65/30f
  206/45/311 207/65/311 208/49/30f 209/69/30f 20a/49/311 20b/69/311 20c/4f/30f 20d/6f/30f
  20e/4f/311 20f/6f/311 210/52/30f 211/72/30f 212/52/311 213/72/311 214/55/30f 215/75/30f
  216/55/311 217/75/311 218/53/326 219/73/326 21a/54/326 21b/74/326 21e/48/30c 21f/68/30c
  226/41/307 227/61/307 228/45/327 229/65/327 22a/d6/304 22b/f6/304 22c/d5/304 22d/f5/304
  22e/4f/307 22f/6f/307 230/22e/304 231/22f/304 232/59/304 233/79/304 385/a8/301 386/391/301
  388/395/301 389/397/301 38a/399/301 38c/39f/301 38e/3a5/301 38f/3a9/301 390/3ca/301
  3aa/399/308 3ab/3a5/308 3ac/3b1/301 3ad/3b5/301 3ae/3b7/301 3af/3b9/301 3b0/3cb/301
  3ca/3b9/308 3cb/3c5/308 3cc/3bf/301 3cd/3c5/301 3ce/3c9/301 3d3/3d2/301 3d4/3d2/308
  400/415/300 401/415/308 403/413/301 407/406/308 40c/41a/301 40d/418/300 40e/423/306
  419/418/306 439/438/306 450/435/300 451/435/308 453/433/301 457/456/308 45c/43a/301
  45d/438/300 45e/443/306 476/474/30f 477/475/30f 4c1/416/306 4c2/436/306 4d0/410/306
  4d1/430/306 4d2/410/308 4d3/430/308 4d6/415/306 4d7/435/306 4da/4d8/308 4db/4d9/308
  4dc/416/308 4dd/436/308 4de/417/308 4df/437/308 4e2/418/304 4e3/438/304 4e4/418/308
  4e5/438/308 4e6/41e/308 4e7/43e/308 4ea/4e8/308 4eb/4e9/308 4ec/42d/308 4ed/44d/308
  4ee/423/304 4ef/443/304 4f0/423/308 4f1/443/308 4f2/423/30b 4f3/443/30b 4f4/427/308
  4f5/447/308 4f8/42b/308 4f9/44b/308 622/627/653 623/627/654 624/648/654 625/627/655
  626/64a/654 6c0/6d5/654 6c2/6c1/654 6d3/6d2/654 929/928/93c 931/930/93c 934/933/93c
  9cb/9c7/9be 9cc/9c7/9d7 b48/b47/b56 b4b/b47/b3e b4c/b47/b57 b94/b92/bd7 bca/bc6/bbe
  bcb/bc7/bbe bcc/bc6/bd7 c48/c46/c56 cc0/cbf/cd5 cc7/cc6/cd5 cc8/cc6/cd6 cca/cc6/cc2
  ccb/cca/cd5 d4a/d46/d3e d4b/d47/d3e d4c/d46/d57 dda/dd9/dca ddc/dd9/dcf ddd/ddc/dca
  dde/dd9/ddf 1026/1025/102e 1b06/1b05/1b35 1b08/1b07/1b35 1b0a/1b09/1b35 1b0c/1b0b/1b35
  1b0e/1b0d/1b35 1b12/1b11/1b35 1b3b/1b3a/1b35 1b3d/1b3c/1b35 1b40/1b3e/1b35 1b41/1b3f/1b35
  1b43/1b42/1b35 1e00/41/325 1e01/61/325 1e02/42/307 1e03/62/307 1e04/42/323 1e05/62/323
  1e06/42/331 1e07/62/331 1e08/c7/301 1e09/e7/301 1e0a/44/307 1e0b/64/307 1e0c/44/323
  1e0d/64/323 1e0e/44/331 1e0f/64/331 1e10/44/327 1e11/64/327 1e12/44/32d 1e13/64/32d
  1e14/112/300 1e15/113/300 1e16/112/301 1e17/113/301 1e18/45/32d 1e19/65/32d 1e1a/45/330
  1e1b/65/330 1e1c/228/306 1e1d/229/306 1e1e/46/307 1e1f/66/307 1e20/47/304 1e21/67/304
  1e22/48/307 1e23/68/307 1e24/48/323 1e25/68/323 1e26/48/308 1e27/68/308 1e28/48/327
  1e29/68/327 1e2a/48/32e 1e2b/68/32e 1e2c/49/330 1e2d/69/330 1e2e/cf/301 1e2f/ef/301
  1e30/4b/301 1e31/6b/301 1e32/4b/323 1e33/6b/323 1e34/4b/331 1e35/6b/331 1e36/4c/323
  1e37/6c/323 1e38/1e36/304 1e39/1e37/304 1e3a/4c/331 1e3b/6c/331 1e3c/4c/32d 1e3d/6c/32d
  1e3e/4d/301 1e3f/6d/301 1e40/4d/307 1e41/6d/307 1e42/4d/323 1e43/6d/323 1e44/4e/307
  1e45/6e/307 1e46/4e/323 1e47/6e/323 1e48/4e/331 1e49/6e/331 1e4a/4e/32d 1e4b/6e/32d
  1e4c/d5/301 1e4d/f5/301 1e4e/d5/308 1e4f/f5/308 1e50/14c/300 1e51/14d/300 1e52/14c/301
  1e53/14d/301 1e54/50/301 1e55/70/301 1e56/50/307 1e57/70/307 1e58/52/307 1e59/72/307
  1e5a/52/323 1e5b/72/323 1e5c/1e5a/304 1e5d/1e5b/304 1e5e/52/331 1e5f/72/331 1e60/53/307
  1e61/73/307 1e62/53/323 1e63/73/323 1e64/15a/307 1e65/15b/307 1e66/160/307 1e67/161/307
  1e68/1e62/307 1e69/1e63/307 1e6a/54/307 1e6b/74/307 1e6c/54/323 1e6d/74/323 1e6e/54/331
  1e6f/74/331 1e70/54/32d 1e71/74/32d 1e72/55/324 1e73/75/324 1e74/55/330 1e75/75/330
  1e76/55/32d 1e77/75/32d 1e78/168/301 1e79/169/301 1e7a/16a/308 1e7b/16b/308 1e7c/56/303
  1e7d/76/303 1e7e/56/323 1e7f/76/323 1e80/57/300 1e81/77/300 1e82/57/301 1e83/77/301
  1e84/57/308 1e85/77/308 1e86/57/307 1e87/77/307 1e88/57/323 1e89/77/323 1e8a/58/307
  1e8b/78/307 1e8c/58/308 1e8d/78/308 1e8e/59/307 1e8f/79/307 1e90/5a/302 1e91/7a/302
  1e92/5a/323 1e93/7a/323 1e94/5a/331 1e95/7a/331 1e96/68/331 1e97/74/308 1e98/77/30a
  1e99/79/30a 1e9b/17f/307 1ea0/41/323 1ea1/61/323 1ea2/41/309 1ea3/61/309 1ea4/c2/301
  1ea5/e2/301 1ea6/c2/300 1ea7/e2/300 1ea8/c2/309 1ea9/e2/309 1eaa/c2/303 1eab/e2/303
  1eac/1ea0/302 1ead/1ea1/302 1eae/102/301 1eaf/103/301 1eb0/102/300 1eb1/103/300 1eb2/102/309
  1eb3/103/309 1eb4/102/303 1eb5/103/303 1eb6/1ea0/306 1eb7/1ea1/306 1eb8/45/323 1eb9/65/323
  1eba/45/309 1ebb/65/309 1ebc/45/303 1ebd/65/303 1ebe/ca/301 1ebf/ea/301 1ec0/ca/300
  1ec1/ea/300 1ec2/ca/309 1ec3/ea/309 1ec4/ca/303 1ec5/ea/303 1ec6/1eb8/302 1ec7/1eb9/302
  1ec8/49/309 1ec9/69/309 1eca/49/323 1ecb/69/323 1ecc/4f/323 1ecd/6f/323 1ece/4f/309
  1ecf/6f/309 1ed0/d4/301 1ed1/f4/301 1ed2/d4/300 1ed3/f4/300 1ed4/d4/309 1ed5/f4/309
  1ed6/d4/303 1ed7/f4/303 1ed8/1ecc/302 1ed9/1ecd/302 1eda/1a0/301 1edb/1a1/301 1edc/1a0/300
  1edd/1a1/300 1ede/1a0/309 1edf/1a1/309 1ee0/1a0/303 1ee1/1a1/303 1ee2/1a0/323 1ee3/1a1/323
  1ee4/55/323 1ee5/75/323 1ee6/55/309 1ee7/75/309 1ee8/1af/301 1ee9/1b0/301 1eea/1af/300
  1eeb/1b0/300 1eec/1af/309 1eed/1b0/309 1eee/1af/303 1eef/1b0/303 1ef0/1af/323 1ef1/1b0/323
  1ef2/59/300 1ef3/79/300 1ef4/59/323 1ef5/79/323 1ef6/59/309 1ef7/79/309 1ef8/59/303
  1ef9/79/303 1f00/3b1/313 1f01/3b1/314 1f02/1f00/300 1f03/1f01/300 1f04/1f00/301
  1f05/1f01/301 1f06/1f00/342 1f07/1f01/342 1f08/391/313 1f09/391/314 1f0a/1f08/300
  1f0b/1f09/300 1f0c/1f08/301 1f0d/1f09/301 1f0e/1f08/342 1f0f/1f09/342 1f10/3b5/313
  1f11/3b5/314 1f12/1f10/300 1f13/1f11/300 1f14/1f10/301 1f15/1f11/301 1f18/395/313
  1f19/395/314 1f1a/1f18/300 1f1b/1f19/300 1f1c/1f18/301 1f1d/1f19/301 1f20/3b7/313
  1f21/3b7/314 1f22/1f20/300 1f23/1f21/300 1f24/1f20/301 1f25/1f21/301 1f26/1f20/342
  1f27/1f21/342 1f28/397/313 1f29/397/314 1f2a/1f28/300 1f2b/1f29/300 1f2c/1f28/301
  1f2d/1f29/301 1f2e/1f28/342 1f2f/1f29/342 1f30/3b9/313 1f31/3b9/314 1f32/1f30/300
  1f33/1f31/300 1f34/1f30/301 1f35/1f31/301 1f36/1f30/342 1f37/1f31/342 1f38/399/313
  1f39/399/314 1f3a/1f38/300 1f3b/1f39/300 1f3c/1f38/301 1f3d/1f39/301 1f3e/1f38/342
  1f3f/1f39/342 1f40/3bf/313 1f41/3bf/314 1f42/1f40/300 1f43/1f41/300 1f44/1f40/301
  1f45/1f41/301 1f48/39f/313 1f49/39f/314 1f4a/1f48/300 1f4b/1f49/300 1f4c/1f48/301
  1f4d/1f49/301 1f50/3c5/313 1f51/3c5/314 1f52/1f50/300 1f53/1f51/300 1f54/1f50/301
  1f55/1f51/301 1f56/1f50/342 1f57/1f51/342 1f59/3a5/314 1f5b/1f59/300 1f5d/1f59/301
  1f5f/1f59/342 1f60/3c9/313 1f61/3c9/314 1f62/1f60/300 1f63/1f61/300 1f64/1f60/301
  1f65/1f61/301 1f66/1f60/342 1f67/1f61/342 1f68/3a9/313 1f69/3a9/314 1f6a/1f68/300
  1f6b/1f69/300 1f6c/1f68/301 1f6d/1f69/301 1f6e/1f68/342 1f6f/1f69/342 1f70/3b1/300
  1f72/3b5/300 1f74/3b7/300 1f76/3b9/300 1f78/3bf/300 1f7a/3c5/300 1f7c/3c9/300 1f80/1f00/345
  1f81/1f01/345 1f82/1f02/345 1f83/1f03/345 1f84/1f04/345 1f85/1f05/345 1f86/1f06/345
  1f87/1f07/345 1f88/1f08/345 1f89/1f09/345 1f8a/1f0a/345 1f8b/1f0b/345 1f8c/1f0c/345
  1f8d/1f0d/345 1f8e/1f0e/345 1f8f/1f0f/345 1f90/1f20/345 1f91/1f21/345 1f92/1f22/345
  1f93/1f23/345 1f94/1f24/345 1f95/1f25/345 1f96/1f26/345 1f97/1f27/345 1f98/1f28/345
  1f99/1f29/345 1f9a/1f2a/345 1f9b/1f2b/345 1f9c/1f2c/345 1f9d/1f2d/345 1f9e/1f2e/345
  1f9f/1f2f/345 1fa0/1f60/345 1fa1/1f61/345 1fa2/1f62/345 1fa3/1f63/345 1fa4/1f64/345
  1fa5/1f65/345 1fa6/1f66/345 1fa7/1f67/345 1fa8/1f68/345 1fa9/1f69/345 1faa/1f6a/345
  1fab/1f6b/345 1fac/1f6c/345 1fad/1f6d/345 1fae/1f6e/345 1faf/1f6f/345 1fb0/3b1/306
  1fb1/3b1/304 1fb2/1f70/345 1fb3/3b1/345 1fb4/3ac/345 1fb6/3b1/342 1fb7/1fb6/345 1fb8/391/306
  1fb9/391/304 1fba/391/300 1fbc/391/345 1fc1/a8/342 1fc2/1f74/345 1fc3/3b7/345 1fc4/3ae/345
  1fc6/3b7/342 1fc7/1fc6/345 1fc8/395/300 1fca/397/300 1fcc/397/345 1fcd/1fbf/300
  1fce/1fbf/301 1fcf/1fbf/342 1fd0/3b9/306 1fd1/3b9/304 1fd2/3ca/300 1fd6/3b9/342 1fd7/3ca/342
  1fd8/399/306 1fd9/399/304 1fda/399/300 1fdd/1ffe/300 1fde/1ffe/301 1fdf/1ffe/342
  1fe0/3c5/306 1fe1/3c5/304 1fe2/3cb/300 1fe4/3c1/313 1fe5/3c1/314 1fe6/3c5/342 1fe7/3cb/342
  1fe8/3a5/306 1fe9/3a5/304 1fea/3a5/300 1fec/3a1/314 1fed/a8/300 1ff2/1f7c/345 1ff3/3c9/345
  1ff4/3ce/345 1ff6/3c9/342 1ff7/1ff6/345 1ff8/39f/300 1ffa/3a9/300 1ffc/3a9/345 219a/2190/338
  219b/2192/338 21ae/2194/338 21cd/21d0/338 21ce/21d4/338 21cf/21d2/338 2204/2203/338
  2209/2208/338 220c/220b/338 2224/2223/338 2226/2225/338 2241/223c/338 2244/2243/338
  2247/2245/338 2249/2248/338 2260/3d/338 2262/2261/338 226d/224d/338 226e/3c/338 226f/3e/338
  2270/2264/338 2271/2265/338 2274/2272/338 2275/2273/338 2278/2276/338 2279/2277/338
  2280/227a/338 2281/227b/338 2284/2282/338 2285/2283/338 2288/2286/338 2289/2287/338
  22ac/22a2/338 22ad/22a8/338 22ae/22a9/338 22af/22ab/338 22e0/227c/338 22e1/227d/338
  22e2/2291/338 22e3/2292/338 22ea/22b2/338 22eb/22b3/338 22ec/22b4/338 22ed/22b5/338
  304c/304b/3099 304e/304d/3099 3050/304f/3099 3052/3051/3099 3054/3053/3099 3056/3055/3099
  3058/3057/3099 305a/3059/3099 305c/305b/3099 305e/305d/3099 3060/305f/3099 3062/3061/3099
  3065/3064/3099 3067/3066/3099 3069/3068/3099 3070/306f/3099 3071/306f/309a 3073/3072/3099
  3074/3072/309a 3076/3075/3099 3077/3075/309a 3079/3078/3099 307a/3078/309a 307c/307b/3099
  307d/307b/309a 3094/3046/3099 309e/309d/3099 30ac/30ab/3099 30ae/30ad/3099 30b0/30af/3099
  30b2/30b1/3099 30b4/30b3/3099 30b6/30b5/3099 30b8/30b7/3099 30ba/30b9/3099 30bc/30bb/3099
  30be/30bd/3099 30c0/30bf/3099 30c2/30c1/3099 30c5/30c4/3099 30c7/30c6/3099 30c9/30c8/3099
  30d0/30cf/3099 30d1/30cf/309a 30d3/30d2/3099 30d4/30d2/309a 30d6/30d5/3099 30d7/30d5/309a
  30d9/30d8/3099 30da/30d8/309a 30dc/30db/3099 30dd/30db/309a 30f4/30a6/3099 30f7/30ef/3099
  30f8/30f0/3099 30f9/30f1/3099 30fa/30f2/3099 30fe/30fd/3099 1109a/11099/110ba
  1109c/1109b/110ba 110ab/110a5/110ba 1112e/11131/11127 1112f/11132/11127 1134b/11347/1133e
  1134c/11347/11357 114bb/114b9/114ba 114bc/114b9/114b0 114be/114b9/114bd 115ba/115b8/115af
  115bb/115b9/115af 11938/11935/11930").toArray.map
    fun word => match (splitWhere (· = '/') word).map hexValue with
      | [whole, first, second] => (whole, (first, second))
      | _ => (0, (0, 0))

/-- The characters that do not occur in composed form. -/
def notComposed : CodeRanges := .ofText
  "340-341 343-344 374 37e 387 958-95f 9dc-9dd 9df a33 a36 a59-a5b a5e b5c-b5d f43 f4d f52 f57
  f5c f69 f73 f75-f76 f78 f81 f93 f9d fa2 fa7 fac fb9 1f71 1f73 1f75 1f77 1f79 1f7b 1f7d 1fbb
  1fbe 1fc9 1fcb 1fd3 1fdb 1fe3 1feb 1fee-1fef 1ff9 1ffb 1ffd 2000-2001 2126 212a-212b
  2329-232a 2adc f900-fa0d fa10 fa12 fa15-fa1e fa20 fa22 fa25-fa26 fa2a-fa6d fa70-fad9 fb1d
  fb1f fb2a-fb36 fb38-fb3c fb3e fb40-fb41 fb43-fb44 fb46-fb4e 1d15e-1d164 1d1bb-1d1c0
  2f800-2fa1d"

namespace Composition

/-- The characters for which a syllable of the Korean alphabet stands. -/
def syllableParts? (code : Nat) : Option (List Nat) :=
  if 0xAC00 ≤ code ∧ code ≤ 0xD7A3 then
    let index := code - 0xAC00
    let last := if index % 28 = 0 then [] else [0x11A7 + index % 28]
    some ((0x1100 + index / 588) :: (0x1161 + index % 588 / 28) :: last)
  else none

/-- The characters for which one stands. The first argument bounds the steps. -/
def parts : Nat → Nat → List Nat
  | 0, code => [code]
  | fuel + 1, code =>
    match syllableParts? code, composedPairs.last? code with
    | some parts, _ => parts
    | none, some (whole, (first, second)) =>
      if whole = code then parts fuel first ++ [second] else [code]
    | none, none => [code]

/-- Puts the marks that follow each other in order. -/
def order : List Nat → List Nat → List Nat
  | marks, [] => marks
  | marks, code :: rest =>
    if combiningClass code = 0 then marks ++ code :: order [] rest
    else
      let before := marks.takeWhile fun mark => combiningClass mark ≤ combiningClass code
      order (before ++ code :: marks.drop before.length) rest

/-- The character that stands for two others. -/
def pair? (first second : Nat) : Option Nat :=
  if 0x1100 ≤ first ∧ first ≤ 0x1112 ∧ 0x1161 ≤ second ∧ second ≤ 0x1175 then
    some (0xAC00 + ((first - 0x1100) * 21 + (second - 0x1161)) * 28)
  else if 0xAC00 ≤ first ∧ first ≤ 0xD7A3 ∧ (first - 0xAC00) % 28 = 0
      ∧ 0x11A8 ≤ second ∧ second ≤ 0x11C2 then some (first + (second - 0x11A7))
  else (composedPairs.find? fun entry => entry.2 = (first, second)).map (·.1)

/-- Joins marks to the letter before them. `skipped` holds what stands between the letter and the
rest, in reverse. -/
def join (letter : Nat) (skipped : List Nat) : List Nat → List Nat
  | [] => letter :: skipped.reverse
  | code :: rest =>
    let last := (skipped.head?.map combiningClass).getD 0
    let isBlocked := !skipped.isEmpty && (last = 0 || combiningClass code ≤ last)
    match (if isBlocked then none else pair? letter code) with
    | some whole => join whole skipped rest
    | none =>
      if combiningClass code = 0 then letter :: skipped.reverse ++ join code [] rest
      else join letter (code :: skipped) rest

/-- The composed form of characters that are in no other form but this and the decomposed one. -/
def ofCodes (codes : List Nat) : List Nat :=
  let ordered := order [] (codes.flatMap (parts 4))
  let marks := ordered.takeWhile (combiningClass · ≠ 0)
  match ordered.drop marks.length with
  | [] => marks
  | letter :: rest => marks ++ join letter [] rest

end Composition

/-- Is a text in composed form? -/
def isComposed (text : List Char) : Bool :=
  let codes := text.map (·.toNat)
  codes.all (!notComposed.contains ·) && Composition.ofCodes codes = codes

end ProposalCheck
