/-
  StyleCheck.Text.Decomposition — characters that stand for other characters.

  The tables are texts. In `composites` every three characters are a composite, its base and its
  mark, and base and mark may be joined again. In `broken` the same is given for composites that
  are always left taken apart. In `singles` every two characters are a character and the one
  that replaces it.
-/

import StyleCheck.Text.Basic

namespace StyleCheck.Text.Decomposition

structure Composite where
  whole : Char
  base : Char
  mark : Char

def triples : Text → List Composite
  | whole :: base :: mark :: rest => ⟨whole, base, mark⟩ :: triples rest
  | _ => []

def pairs : Text → List (Char × Char)
  | c :: d :: rest => (c, d) :: pairs rest
  | _ => []

def composites : List Composite := triples (List.flatMap String.toList [
  "\u00c0A\u0300\u00c1A\u0301\u00c2A\u0302\u00c3A\u0303\u00c4A\u0308\u00c5A\u030a\u00c7C\u0327",
  "\u00c8E\u0300\u00c9E\u0301\u00caE\u0302\u00cbE\u0308\u00ccI\u0300\u00cdI\u0301\u00ceI\u0302",
  "\u00cfI\u0308\u00d1N\u0303\u00d2O\u0300\u00d3O\u0301\u00d4O\u0302\u00d5O\u0303\u00d6O\u0308",
  "\u00d9U\u0300\u00daU\u0301\u00dbU\u0302\u00dcU\u0308\u00ddY\u0301\u00e0a\u0300\u00e1a\u0301",
  "\u00e2a\u0302\u00e3a\u0303\u00e4a\u0308\u00e5a\u030a\u00e7c\u0327\u00e8e\u0300\u00e9e\u0301",
  "\u00eae\u0302\u00ebe\u0308\u00eci\u0300\u00edi\u0301\u00eei\u0302\u00efi\u0308\u00f1n\u0303",
  "\u00f2o\u0300\u00f3o\u0301\u00f4o\u0302\u00f5o\u0303\u00f6o\u0308\u00f9u\u0300\u00fau\u0301",
  "\u00fbu\u0302\u00fcu\u0308\u00fdy\u0301\u00ffy\u0308\u0100A\u0304\u0101a\u0304\u0102A\u0306",
  "\u0103a\u0306\u0104A\u0328\u0105a\u0328\u0106C\u0301\u0107c\u0301\u0108C\u0302\u0109c\u0302",
  "\u010aC\u0307\u010bc\u0307\u010cC\u030c\u010dc\u030c\u010eD\u030c\u010fd\u030c\u0112E\u0304",
  "\u0113e\u0304\u0114E\u0306\u0115e\u0306\u0116E\u0307\u0117e\u0307\u0118E\u0328\u0119e\u0328",
  "\u011aE\u030c\u011be\u030c\u011cG\u0302\u011dg\u0302\u011eG\u0306\u011fg\u0306\u0120G\u0307",
  "\u0121g\u0307\u0122G\u0327\u0123g\u0327\u0124H\u0302\u0125h\u0302\u0128I\u0303\u0129i\u0303",
  "\u012aI\u0304\u012bi\u0304\u012cI\u0306\u012di\u0306\u012eI\u0328\u012fi\u0328\u0130I\u0307",
  "\u0134J\u0302\u0135j\u0302\u0136K\u0327\u0137k\u0327\u0139L\u0301\u013al\u0301\u013bL\u0327",
  "\u013cl\u0327\u013dL\u030c\u013el\u030c\u0143N\u0301\u0144n\u0301\u0145N\u0327\u0146n\u0327",
  "\u0147N\u030c\u0148n\u030c\u014cO\u0304\u014do\u0304\u014eO\u0306\u014fo\u0306\u0150O\u030b",
  "\u0151o\u030b\u0154R\u0301\u0155r\u0301\u0156R\u0327\u0157r\u0327\u0158R\u030c\u0159r\u030c",
  "\u015aS\u0301\u015bs\u0301\u015cS\u0302\u015ds\u0302\u015eS\u0327\u015fs\u0327\u0160S\u030c",
  "\u0161s\u030c\u0162T\u0327\u0163t\u0327\u0164T\u030c\u0165t\u030c\u0168U\u0303\u0169u\u0303",
  "\u016aU\u0304\u016bu\u0304\u016cU\u0306\u016du\u0306\u016eU\u030a\u016fu\u030a\u0170U\u030b",
  "\u0171u\u030b\u0172U\u0328\u0173u\u0328\u0174W\u0302\u0175w\u0302\u0176Y\u0302\u0177y\u0302",
  "\u0178Y\u0308\u0179Z\u0301\u017az\u0301\u017bZ\u0307\u017cz\u0307\u017dZ\u030c\u017ez\u030c",
  "\u01a0O\u031b\u01a1o\u031b\u01afU\u031b\u01b0u\u031b\u01cdA\u030c\u01cea\u030c\u01cfI\u030c",
  "\u01d0i\u030c\u01d1O\u030c\u01d2o\u030c\u01d3U\u030c\u01d4u\u030c\u01d5\u00dc\u0304",
  "\u01d6\u00fc\u0304\u01d7\u00dc\u0301\u01d8\u00fc\u0301\u01d9\u00dc\u030c\u01da\u00fc\u030c",
  "\u01db\u00dc\u0300\u01dc\u00fc\u0300\u01de\u00c4\u0304\u01df\u00e4\u0304\u01e0\u0226\u0304",
  "\u01e1\u0227\u0304\u01e2\u00c6\u0304\u01e3\u00e6\u0304\u01e6G\u030c\u01e7g\u030c",
  "\u01e8K\u030c\u01e9k\u030c\u01eaO\u0328\u01ebo\u0328\u01ec\u01ea\u0304\u01ed\u01eb\u0304",
  "\u01ee\u01b7\u030c\u01ef\u0292\u030c\u01f0j\u030c\u01f4G\u0301\u01f5g\u0301\u01f8N\u0300",
  "\u01f9n\u0300\u01fa\u00c5\u0301\u01fb\u00e5\u0301\u01fc\u00c6\u0301\u01fd\u00e6\u0301",
  "\u01fe\u00d8\u0301\u01ff\u00f8\u0301\u0200A\u030f\u0201a\u030f\u0202A\u0311\u0203a\u0311",
  "\u0204E\u030f\u0205e\u030f\u0206E\u0311\u0207e\u0311\u0208I\u030f\u0209i\u030f\u020aI\u0311",
  "\u020bi\u0311\u020cO\u030f\u020do\u030f\u020eO\u0311\u020fo\u0311\u0210R\u030f\u0211r\u030f",
  "\u0212R\u0311\u0213r\u0311\u0214U\u030f\u0215u\u030f\u0216U\u0311\u0217u\u0311\u0218S\u0326",
  "\u0219s\u0326\u021aT\u0326\u021bt\u0326\u021eH\u030c\u021fh\u030c\u0226A\u0307\u0227a\u0307",
  "\u0228E\u0327\u0229e\u0327\u022a\u00d6\u0304\u022b\u00f6\u0304\u022c\u00d5\u0304",
  "\u022d\u00f5\u0304\u022eO\u0307\u022fo\u0307\u0230\u022e\u0304\u0231\u022f\u0304",
  "\u0232Y\u0304\u0233y\u0304\u0385\u00a8\u0301\u0386\u0391\u0301\u0388\u0395\u0301",
  "\u0389\u0397\u0301\u038a\u0399\u0301\u038c\u039f\u0301\u038e\u03a5\u0301\u038f\u03a9\u0301",
  "\u0390\u03ca\u0301\u03aa\u0399\u0308\u03ab\u03a5\u0308\u03ac\u03b1\u0301\u03ad\u03b5\u0301",
  "\u03ae\u03b7\u0301\u03af\u03b9\u0301\u03b0\u03cb\u0301\u03ca\u03b9\u0308\u03cb\u03c5\u0308",
  "\u03cc\u03bf\u0301\u03cd\u03c5\u0301\u03ce\u03c9\u0301\u03d3\u03d2\u0301\u03d4\u03d2\u0308",
  "\u0400\u0415\u0300\u0401\u0415\u0308\u0403\u0413\u0301\u0407\u0406\u0308\u040c\u041a\u0301",
  "\u040d\u0418\u0300\u040e\u0423\u0306\u0419\u0418\u0306\u0439\u0438\u0306\u0450\u0435\u0300",
  "\u0451\u0435\u0308\u0453\u0433\u0301\u0457\u0456\u0308\u045c\u043a\u0301\u045d\u0438\u0300",
  "\u045e\u0443\u0306\u0476\u0474\u030f\u0477\u0475\u030f\u04c1\u0416\u0306\u04c2\u0436\u0306",
  "\u04d0\u0410\u0306\u04d1\u0430\u0306\u04d2\u0410\u0308\u04d3\u0430\u0308\u04d6\u0415\u0306",
  "\u04d7\u0435\u0306\u04da\u04d8\u0308\u04db\u04d9\u0308\u04dc\u0416\u0308\u04dd\u0436\u0308",
  "\u04de\u0417\u0308\u04df\u0437\u0308\u04e2\u0418\u0304\u04e3\u0438\u0304\u04e4\u0418\u0308",
  "\u04e5\u0438\u0308\u04e6\u041e\u0308\u04e7\u043e\u0308\u04ea\u04e8\u0308\u04eb\u04e9\u0308",
  "\u04ec\u042d\u0308\u04ed\u044d\u0308\u04ee\u0423\u0304\u04ef\u0443\u0304\u04f0\u0423\u0308",
  "\u04f1\u0443\u0308\u04f2\u0423\u030b\u04f3\u0443\u030b\u04f4\u0427\u0308\u04f5\u0447\u0308",
  "\u04f8\u042b\u0308\u04f9\u044b\u0308\u0622\u0627\u0653\u0623\u0627\u0654\u0624\u0648\u0654",
  "\u0625\u0627\u0655\u0626\u064a\u0654\u06c0\u06d5\u0654\u06c2\u06c1\u0654\u06d3\u06d2\u0654",
  "\u0929\u0928\u093c\u0931\u0930\u093c\u0934\u0933\u093c\u09cb\u09c7\u09be\u09cc\u09c7\u09d7",
  "\u0b48\u0b47\u0b56\u0b4b\u0b47\u0b3e\u0b4c\u0b47\u0b57\u0b94\u0b92\u0bd7\u0bca\u0bc6\u0bbe",
  "\u0bcb\u0bc7\u0bbe\u0bcc\u0bc6\u0bd7\u0c48\u0c46\u0c56\u0cc0\u0cbf\u0cd5\u0cc7\u0cc6\u0cd5",
  "\u0cc8\u0cc6\u0cd6\u0cca\u0cc6\u0cc2\u0ccb\u0cca\u0cd5\u0d4a\u0d46\u0d3e\u0d4b\u0d47\u0d3e",
  "\u0d4c\u0d46\u0d57\u0dda\u0dd9\u0dca\u0ddc\u0dd9\u0dcf\u0ddd\u0ddc\u0dca\u0dde\u0dd9\u0ddf",
  "\u1026\u1025\u102e\u1b06\u1b05\u1b35\u1b08\u1b07\u1b35\u1b0a\u1b09\u1b35\u1b0c\u1b0b\u1b35",
  "\u1b0e\u1b0d\u1b35\u1b12\u1b11\u1b35\u1b3b\u1b3a\u1b35\u1b3d\u1b3c\u1b35\u1b40\u1b3e\u1b35",
  "\u1b41\u1b3f\u1b35\u1b43\u1b42\u1b35\u1e00A\u0325\u1e01a\u0325\u1e02B\u0307\u1e03b\u0307",
  "\u1e04B\u0323\u1e05b\u0323\u1e06B\u0331\u1e07b\u0331\u1e08\u00c7\u0301\u1e09\u00e7\u0301",
  "\u1e0aD\u0307\u1e0bd\u0307\u1e0cD\u0323\u1e0dd\u0323\u1e0eD\u0331\u1e0fd\u0331\u1e10D\u0327",
  "\u1e11d\u0327\u1e12D\u032d\u1e13d\u032d\u1e14\u0112\u0300\u1e15\u0113\u0300",
  "\u1e16\u0112\u0301\u1e17\u0113\u0301\u1e18E\u032d\u1e19e\u032d\u1e1aE\u0330\u1e1be\u0330",
  "\u1e1c\u0228\u0306\u1e1d\u0229\u0306\u1e1eF\u0307\u1e1ff\u0307\u1e20G\u0304\u1e21g\u0304",
  "\u1e22H\u0307\u1e23h\u0307\u1e24H\u0323\u1e25h\u0323\u1e26H\u0308\u1e27h\u0308\u1e28H\u0327",
  "\u1e29h\u0327\u1e2aH\u032e\u1e2bh\u032e\u1e2cI\u0330\u1e2di\u0330\u1e2e\u00cf\u0301",
  "\u1e2f\u00ef\u0301\u1e30K\u0301\u1e31k\u0301\u1e32K\u0323\u1e33k\u0323\u1e34K\u0331",
  "\u1e35k\u0331\u1e36L\u0323\u1e37l\u0323\u1e38\u1e36\u0304\u1e39\u1e37\u0304\u1e3aL\u0331",
  "\u1e3bl\u0331\u1e3cL\u032d\u1e3dl\u032d\u1e3eM\u0301\u1e3fm\u0301\u1e40M\u0307\u1e41m\u0307",
  "\u1e42M\u0323\u1e43m\u0323\u1e44N\u0307\u1e45n\u0307\u1e46N\u0323\u1e47n\u0323\u1e48N\u0331",
  "\u1e49n\u0331\u1e4aN\u032d\u1e4bn\u032d\u1e4c\u00d5\u0301\u1e4d\u00f5\u0301",
  "\u1e4e\u00d5\u0308\u1e4f\u00f5\u0308\u1e50\u014c\u0300\u1e51\u014d\u0300\u1e52\u014c\u0301",
  "\u1e53\u014d\u0301\u1e54P\u0301\u1e55p\u0301\u1e56P\u0307\u1e57p\u0307\u1e58R\u0307",
  "\u1e59r\u0307\u1e5aR\u0323\u1e5br\u0323\u1e5c\u1e5a\u0304\u1e5d\u1e5b\u0304\u1e5eR\u0331",
  "\u1e5fr\u0331\u1e60S\u0307\u1e61s\u0307\u1e62S\u0323\u1e63s\u0323\u1e64\u015a\u0307",
  "\u1e65\u015b\u0307\u1e66\u0160\u0307\u1e67\u0161\u0307\u1e68\u1e62\u0307\u1e69\u1e63\u0307",
  "\u1e6aT\u0307\u1e6bt\u0307\u1e6cT\u0323\u1e6dt\u0323\u1e6eT\u0331\u1e6ft\u0331\u1e70T\u032d",
  "\u1e71t\u032d\u1e72U\u0324\u1e73u\u0324\u1e74U\u0330\u1e75u\u0330\u1e76U\u032d\u1e77u\u032d",
  "\u1e78\u0168\u0301\u1e79\u0169\u0301\u1e7a\u016a\u0308\u1e7b\u016b\u0308\u1e7cV\u0303",
  "\u1e7dv\u0303\u1e7eV\u0323\u1e7fv\u0323\u1e80W\u0300\u1e81w\u0300\u1e82W\u0301\u1e83w\u0301",
  "\u1e84W\u0308\u1e85w\u0308\u1e86W\u0307\u1e87w\u0307\u1e88W\u0323\u1e89w\u0323\u1e8aX\u0307",
  "\u1e8bx\u0307\u1e8cX\u0308\u1e8dx\u0308\u1e8eY\u0307\u1e8fy\u0307\u1e90Z\u0302\u1e91z\u0302",
  "\u1e92Z\u0323\u1e93z\u0323\u1e94Z\u0331\u1e95z\u0331\u1e96h\u0331\u1e97t\u0308\u1e98w\u030a",
  "\u1e99y\u030a\u1e9b\u017f\u0307\u1ea0A\u0323\u1ea1a\u0323\u1ea2A\u0309\u1ea3a\u0309",
  "\u1ea4\u00c2\u0301\u1ea5\u00e2\u0301\u1ea6\u00c2\u0300\u1ea7\u00e2\u0300\u1ea8\u00c2\u0309",
  "\u1ea9\u00e2\u0309\u1eaa\u00c2\u0303\u1eab\u00e2\u0303\u1eac\u1ea0\u0302\u1ead\u1ea1\u0302",
  "\u1eae\u0102\u0301\u1eaf\u0103\u0301\u1eb0\u0102\u0300\u1eb1\u0103\u0300\u1eb2\u0102\u0309",
  "\u1eb3\u0103\u0309\u1eb4\u0102\u0303\u1eb5\u0103\u0303\u1eb6\u1ea0\u0306\u1eb7\u1ea1\u0306",
  "\u1eb8E\u0323\u1eb9e\u0323\u1ebaE\u0309\u1ebbe\u0309\u1ebcE\u0303\u1ebde\u0303",
  "\u1ebe\u00ca\u0301\u1ebf\u00ea\u0301\u1ec0\u00ca\u0300\u1ec1\u00ea\u0300\u1ec2\u00ca\u0309",
  "\u1ec3\u00ea\u0309\u1ec4\u00ca\u0303\u1ec5\u00ea\u0303\u1ec6\u1eb8\u0302\u1ec7\u1eb9\u0302",
  "\u1ec8I\u0309\u1ec9i\u0309\u1ecaI\u0323\u1ecbi\u0323\u1eccO\u0323\u1ecdo\u0323\u1eceO\u0309",
  "\u1ecfo\u0309\u1ed0\u00d4\u0301\u1ed1\u00f4\u0301\u1ed2\u00d4\u0300\u1ed3\u00f4\u0300",
  "\u1ed4\u00d4\u0309\u1ed5\u00f4\u0309\u1ed6\u00d4\u0303\u1ed7\u00f4\u0303\u1ed8\u1ecc\u0302",
  "\u1ed9\u1ecd\u0302\u1eda\u01a0\u0301\u1edb\u01a1\u0301\u1edc\u01a0\u0300\u1edd\u01a1\u0300",
  "\u1ede\u01a0\u0309\u1edf\u01a1\u0309\u1ee0\u01a0\u0303\u1ee1\u01a1\u0303\u1ee2\u01a0\u0323",
  "\u1ee3\u01a1\u0323\u1ee4U\u0323\u1ee5u\u0323\u1ee6U\u0309\u1ee7u\u0309\u1ee8\u01af\u0301",
  "\u1ee9\u01b0\u0301\u1eea\u01af\u0300\u1eeb\u01b0\u0300\u1eec\u01af\u0309\u1eed\u01b0\u0309",
  "\u1eee\u01af\u0303\u1eef\u01b0\u0303\u1ef0\u01af\u0323\u1ef1\u01b0\u0323\u1ef2Y\u0300",
  "\u1ef3y\u0300\u1ef4Y\u0323\u1ef5y\u0323\u1ef6Y\u0309\u1ef7y\u0309\u1ef8Y\u0303\u1ef9y\u0303",
  "\u1f00\u03b1\u0313\u1f01\u03b1\u0314\u1f02\u1f00\u0300\u1f03\u1f01\u0300\u1f04\u1f00\u0301",
  "\u1f05\u1f01\u0301\u1f06\u1f00\u0342\u1f07\u1f01\u0342\u1f08\u0391\u0313\u1f09\u0391\u0314",
  "\u1f0a\u1f08\u0300\u1f0b\u1f09\u0300\u1f0c\u1f08\u0301\u1f0d\u1f09\u0301\u1f0e\u1f08\u0342",
  "\u1f0f\u1f09\u0342\u1f10\u03b5\u0313\u1f11\u03b5\u0314\u1f12\u1f10\u0300\u1f13\u1f11\u0300",
  "\u1f14\u1f10\u0301\u1f15\u1f11\u0301\u1f18\u0395\u0313\u1f19\u0395\u0314\u1f1a\u1f18\u0300",
  "\u1f1b\u1f19\u0300\u1f1c\u1f18\u0301\u1f1d\u1f19\u0301\u1f20\u03b7\u0313\u1f21\u03b7\u0314",
  "\u1f22\u1f20\u0300\u1f23\u1f21\u0300\u1f24\u1f20\u0301\u1f25\u1f21\u0301\u1f26\u1f20\u0342",
  "\u1f27\u1f21\u0342\u1f28\u0397\u0313\u1f29\u0397\u0314\u1f2a\u1f28\u0300\u1f2b\u1f29\u0300",
  "\u1f2c\u1f28\u0301\u1f2d\u1f29\u0301\u1f2e\u1f28\u0342\u1f2f\u1f29\u0342\u1f30\u03b9\u0313",
  "\u1f31\u03b9\u0314\u1f32\u1f30\u0300\u1f33\u1f31\u0300\u1f34\u1f30\u0301\u1f35\u1f31\u0301",
  "\u1f36\u1f30\u0342\u1f37\u1f31\u0342\u1f38\u0399\u0313\u1f39\u0399\u0314\u1f3a\u1f38\u0300",
  "\u1f3b\u1f39\u0300\u1f3c\u1f38\u0301\u1f3d\u1f39\u0301\u1f3e\u1f38\u0342\u1f3f\u1f39\u0342",
  "\u1f40\u03bf\u0313\u1f41\u03bf\u0314\u1f42\u1f40\u0300\u1f43\u1f41\u0300\u1f44\u1f40\u0301",
  "\u1f45\u1f41\u0301\u1f48\u039f\u0313\u1f49\u039f\u0314\u1f4a\u1f48\u0300\u1f4b\u1f49\u0300",
  "\u1f4c\u1f48\u0301\u1f4d\u1f49\u0301\u1f50\u03c5\u0313\u1f51\u03c5\u0314\u1f52\u1f50\u0300",
  "\u1f53\u1f51\u0300\u1f54\u1f50\u0301\u1f55\u1f51\u0301\u1f56\u1f50\u0342\u1f57\u1f51\u0342",
  "\u1f59\u03a5\u0314\u1f5b\u1f59\u0300\u1f5d\u1f59\u0301\u1f5f\u1f59\u0342\u1f60\u03c9\u0313",
  "\u1f61\u03c9\u0314\u1f62\u1f60\u0300\u1f63\u1f61\u0300\u1f64\u1f60\u0301\u1f65\u1f61\u0301",
  "\u1f66\u1f60\u0342\u1f67\u1f61\u0342\u1f68\u03a9\u0313\u1f69\u03a9\u0314\u1f6a\u1f68\u0300",
  "\u1f6b\u1f69\u0300\u1f6c\u1f68\u0301\u1f6d\u1f69\u0301\u1f6e\u1f68\u0342\u1f6f\u1f69\u0342",
  "\u1f70\u03b1\u0300\u1f72\u03b5\u0300\u1f74\u03b7\u0300\u1f76\u03b9\u0300\u1f78\u03bf\u0300",
  "\u1f7a\u03c5\u0300\u1f7c\u03c9\u0300\u1f80\u1f00\u0345\u1f81\u1f01\u0345\u1f82\u1f02\u0345",
  "\u1f83\u1f03\u0345\u1f84\u1f04\u0345\u1f85\u1f05\u0345\u1f86\u1f06\u0345\u1f87\u1f07\u0345",
  "\u1f88\u1f08\u0345\u1f89\u1f09\u0345\u1f8a\u1f0a\u0345\u1f8b\u1f0b\u0345\u1f8c\u1f0c\u0345",
  "\u1f8d\u1f0d\u0345\u1f8e\u1f0e\u0345\u1f8f\u1f0f\u0345\u1f90\u1f20\u0345\u1f91\u1f21\u0345",
  "\u1f92\u1f22\u0345\u1f93\u1f23\u0345\u1f94\u1f24\u0345\u1f95\u1f25\u0345\u1f96\u1f26\u0345",
  "\u1f97\u1f27\u0345\u1f98\u1f28\u0345\u1f99\u1f29\u0345\u1f9a\u1f2a\u0345\u1f9b\u1f2b\u0345",
  "\u1f9c\u1f2c\u0345\u1f9d\u1f2d\u0345\u1f9e\u1f2e\u0345\u1f9f\u1f2f\u0345\u1fa0\u1f60\u0345",
  "\u1fa1\u1f61\u0345\u1fa2\u1f62\u0345\u1fa3\u1f63\u0345\u1fa4\u1f64\u0345\u1fa5\u1f65\u0345",
  "\u1fa6\u1f66\u0345\u1fa7\u1f67\u0345\u1fa8\u1f68\u0345\u1fa9\u1f69\u0345\u1faa\u1f6a\u0345",
  "\u1fab\u1f6b\u0345\u1fac\u1f6c\u0345\u1fad\u1f6d\u0345\u1fae\u1f6e\u0345\u1faf\u1f6f\u0345",
  "\u1fb0\u03b1\u0306\u1fb1\u03b1\u0304\u1fb2\u1f70\u0345\u1fb3\u03b1\u0345\u1fb4\u03ac\u0345",
  "\u1fb6\u03b1\u0342\u1fb7\u1fb6\u0345\u1fb8\u0391\u0306\u1fb9\u0391\u0304\u1fba\u0391\u0300",
  "\u1fbc\u0391\u0345\u1fc1\u00a8\u0342\u1fc2\u1f74\u0345\u1fc3\u03b7\u0345\u1fc4\u03ae\u0345",
  "\u1fc6\u03b7\u0342\u1fc7\u1fc6\u0345\u1fc8\u0395\u0300\u1fca\u0397\u0300\u1fcc\u0397\u0345",
  "\u1fcd\u1fbf\u0300\u1fce\u1fbf\u0301\u1fcf\u1fbf\u0342\u1fd0\u03b9\u0306\u1fd1\u03b9\u0304",
  "\u1fd2\u03ca\u0300\u1fd6\u03b9\u0342\u1fd7\u03ca\u0342\u1fd8\u0399\u0306\u1fd9\u0399\u0304",
  "\u1fda\u0399\u0300\u1fdd\u1ffe\u0300\u1fde\u1ffe\u0301\u1fdf\u1ffe\u0342\u1fe0\u03c5\u0306",
  "\u1fe1\u03c5\u0304\u1fe2\u03cb\u0300\u1fe4\u03c1\u0313\u1fe5\u03c1\u0314\u1fe6\u03c5\u0342",
  "\u1fe7\u03cb\u0342\u1fe8\u03a5\u0306\u1fe9\u03a5\u0304\u1fea\u03a5\u0300\u1fec\u03a1\u0314",
  "\u1fed\u00a8\u0300\u1ff2\u1f7c\u0345\u1ff3\u03c9\u0345\u1ff4\u03ce\u0345\u1ff6\u03c9\u0342",
  "\u1ff7\u1ff6\u0345\u1ff8\u039f\u0300\u1ffa\u03a9\u0300\u1ffc\u03a9\u0345\u219a\u2190\u0338",
  "\u219b\u2192\u0338\u21ae\u2194\u0338\u21cd\u21d0\u0338\u21ce\u21d4\u0338\u21cf\u21d2\u0338",
  "\u2204\u2203\u0338\u2209\u2208\u0338\u220c\u220b\u0338\u2224\u2223\u0338\u2226\u2225\u0338",
  "\u2241\u223c\u0338\u2244\u2243\u0338\u2247\u2245\u0338\u2249\u2248\u0338\u2260=\u0338",
  "\u2262\u2261\u0338\u226d\u224d\u0338\u226e<\u0338\u226f>\u0338\u2270\u2264\u0338",
  "\u2271\u2265\u0338\u2274\u2272\u0338\u2275\u2273\u0338\u2278\u2276\u0338\u2279\u2277\u0338",
  "\u2280\u227a\u0338\u2281\u227b\u0338\u2284\u2282\u0338\u2285\u2283\u0338\u2288\u2286\u0338",
  "\u2289\u2287\u0338\u22ac\u22a2\u0338\u22ad\u22a8\u0338\u22ae\u22a9\u0338\u22af\u22ab\u0338",
  "\u22e0\u227c\u0338\u22e1\u227d\u0338\u22e2\u2291\u0338\u22e3\u2292\u0338\u22ea\u22b2\u0338",
  "\u22eb\u22b3\u0338\u22ec\u22b4\u0338\u22ed\u22b5\u0338\u304c\u304b\u3099\u304e\u304d\u3099",
  "\u3050\u304f\u3099\u3052\u3051\u3099\u3054\u3053\u3099\u3056\u3055\u3099\u3058\u3057\u3099",
  "\u305a\u3059\u3099\u305c\u305b\u3099\u305e\u305d\u3099\u3060\u305f\u3099\u3062\u3061\u3099",
  "\u3065\u3064\u3099\u3067\u3066\u3099\u3069\u3068\u3099\u3070\u306f\u3099\u3071\u306f\u309a",
  "\u3073\u3072\u3099\u3074\u3072\u309a\u3076\u3075\u3099\u3077\u3075\u309a\u3079\u3078\u3099",
  "\u307a\u3078\u309a\u307c\u307b\u3099\u307d\u307b\u309a\u3094\u3046\u3099\u309e\u309d\u3099",
  "\u30ac\u30ab\u3099\u30ae\u30ad\u3099\u30b0\u30af\u3099\u30b2\u30b1\u3099\u30b4\u30b3\u3099",
  "\u30b6\u30b5\u3099\u30b8\u30b7\u3099\u30ba\u30b9\u3099\u30bc\u30bb\u3099\u30be\u30bd\u3099",
  "\u30c0\u30bf\u3099\u30c2\u30c1\u3099\u30c5\u30c4\u3099\u30c7\u30c6\u3099\u30c9\u30c8\u3099",
  "\u30d0\u30cf\u3099\u30d1\u30cf\u309a\u30d3\u30d2\u3099\u30d4\u30d2\u309a\u30d6\u30d5\u3099",
  "\u30d7\u30d5\u309a\u30d9\u30d8\u3099\u30da\u30d8\u309a\u30dc\u30db\u3099\u30dd\u30db\u309a",
  "\u30f4\u30a6\u3099\u30f7\u30ef\u3099\u30f8\u30f0\u3099\u30f9\u30f1\u3099\u30fa\u30f2\u3099",
  "\u30fe\u30fd\u3099𑂚𑂚𑂜𑂜𑂫𑂫𑄮𑄮𑄯𑄯𑍋𑍋𑍌𑍌𑒻𑒻𑒼𑒼𑒾𑒾𑖺𑖺𑖻𑖻𑤸𑤸"])

def broken : List Composite := triples (List.flatMap String.toList [
  "\u0344\u0308\u0301\u0958\u0915\u093c\u0959\u0916\u093c\u095a\u0917\u093c\u095b\u091c\u093c",
  "\u095c\u0921\u093c\u095d\u0922\u093c\u095e\u092b\u093c\u095f\u092f\u093c\u09dc\u09a1\u09bc",
  "\u09dd\u09a2\u09bc\u09df\u09af\u09bc\u0a33\u0a32\u0a3c\u0a36\u0a38\u0a3c\u0a59\u0a16\u0a3c",
  "\u0a5a\u0a17\u0a3c\u0a5b\u0a1c\u0a3c\u0a5e\u0a2b\u0a3c\u0b5c\u0b21\u0b3c\u0b5d\u0b22\u0b3c",
  "\u0f43\u0f42\u0fb7\u0f4d\u0f4c\u0fb7\u0f52\u0f51\u0fb7\u0f57\u0f56\u0fb7\u0f5c\u0f5b\u0fb7",
  "\u0f69\u0f40\u0fb5\u0f73\u0f71\u0f72\u0f75\u0f71\u0f74\u0f76\u0fb2\u0f80\u0f78\u0fb3\u0f80",
  "\u0f81\u0f71\u0f80\u0f93\u0f92\u0fb7\u0f9d\u0f9c\u0fb7\u0fa2\u0fa1\u0fb7\u0fa7\u0fa6\u0fb7",
  "\u0fac\u0fab\u0fb7\u0fb9\u0f90\u0fb5\u2adc\u2add\u0338\ufb1d\u05d9\u05b4\ufb1f\u05f2\u05b7",
  "\ufb2a\u05e9\u05c1\ufb2b\u05e9\u05c2\ufb2c\ufb49\u05c1\ufb2d\ufb49\u05c2\ufb2e\u05d0\u05b7",
  "\ufb2f\u05d0\u05b8\ufb30\u05d0\u05bc\ufb31\u05d1\u05bc\ufb32\u05d2\u05bc\ufb33\u05d3\u05bc",
  "\ufb34\u05d4\u05bc\ufb35\u05d5\u05bc\ufb36\u05d6\u05bc\ufb38\u05d8\u05bc\ufb39\u05d9\u05bc",
  "\ufb3a\u05da\u05bc\ufb3b\u05db\u05bc\ufb3c\u05dc\u05bc\ufb3e\u05de\u05bc\ufb40\u05e0\u05bc",
  "\ufb41\u05e1\u05bc\ufb43\u05e3\u05bc\ufb44\u05e4\u05bc\ufb46\u05e6\u05bc\ufb47\u05e7\u05bc",
  "\ufb48\u05e8\u05bc\ufb49\u05e9\u05bc\ufb4a\u05ea\u05bc\ufb4b\u05d5\u05b9\ufb4c\u05d1\u05bf",
  "\ufb4d\u05db\u05bf\ufb4e\u05e4\u05bf𝅗𝅥𝅗𝅥𝅘𝅥𝅘𝅥𝅘𝅥𝅮𝅘𝅥𝅮𝅘𝅥𝅯𝅘𝅥𝅯𝅘𝅥𝅰𝅘𝅥𝅰𝅘𝅥𝅱𝅘𝅥𝅱𝅘𝅥𝅲𝅘𝅥𝅲𝆹𝅥𝆹𝅥𝆺𝅥𝆺𝅥𝆹𝅥𝅮𝆹𝅥𝅮𝆺𝅥𝅮𝆺𝅥𝅮𝆹𝅥𝅯𝆹𝅥𝅯𝆺𝅥𝅯𝆺𝅥𝅯"])

def singles : List (Char × Char) := pairs (List.flatMap String.toList [
  "\u0340\u0300\u0341\u0301\u0343\u0313\u0374\u02b9\u037e;\u0387\u00b7\u1f71\u03ac\u1f73\u03ad",
  "\u1f75\u03ae\u1f77\u03af\u1f79\u03cc\u1f7b\u03cd\u1f7d\u03ce\u1fbb\u0386\u1fbe\u03b9",
  "\u1fc9\u0388\u1fcb\u0389\u1fd3\u0390\u1fdb\u038a\u1fe3\u03b0\u1feb\u038e\u1fee\u0385\u1fef`",
  "\u1ff9\u038c\u1ffb\u038f\u1ffd\u00b4\u2000\u2002\u2001\u2003\u2126\u03a9\u212aK\u212b\u00c5",
  "\u2329\u3008\u232a\u3009\uf900\u8c48\uf901\u66f4\uf902\u8eca\uf903\u8cc8\uf904\u6ed1",
  "\uf905\u4e32\uf906\u53e5\uf907\u9f9c\uf908\u9f9c\uf909\u5951\uf90a\u91d1\uf90b\u5587",
  "\uf90c\u5948\uf90d\u61f6\uf90e\u7669\uf90f\u7f85\uf910\u863f\uf911\u87ba\uf912\u88f8",
  "\uf913\u908f\uf914\u6a02\uf915\u6d1b\uf916\u70d9\uf917\u73de\uf918\u843d\uf919\u916a",
  "\uf91a\u99f1\uf91b\u4e82\uf91c\u5375\uf91d\u6b04\uf91e\u721b\uf91f\u862d\uf920\u9e1e",
  "\uf921\u5d50\uf922\u6feb\uf923\u85cd\uf924\u8964\uf925\u62c9\uf926\u81d8\uf927\u881f",
  "\uf928\u5eca\uf929\u6717\uf92a\u6d6a\uf92b\u72fc\uf92c\u90ce\uf92d\u4f86\uf92e\u51b7",
  "\uf92f\u52de\uf930\u64c4\uf931\u6ad3\uf932\u7210\uf933\u76e7\uf934\u8001\uf935\u8606",
  "\uf936\u865c\uf937\u8def\uf938\u9732\uf939\u9b6f\uf93a\u9dfa\uf93b\u788c\uf93c\u797f",
  "\uf93d\u7da0\uf93e\u83c9\uf93f\u9304\uf940\u9e7f\uf941\u8ad6\uf942\u58df\uf943\u5f04",
  "\uf944\u7c60\uf945\u807e\uf946\u7262\uf947\u78ca\uf948\u8cc2\uf949\u96f7\uf94a\u58d8",
  "\uf94b\u5c62\uf94c\u6a13\uf94d\u6dda\uf94e\u6f0f\uf94f\u7d2f\uf950\u7e37\uf951\u964b",
  "\uf952\u52d2\uf953\u808b\uf954\u51dc\uf955\u51cc\uf956\u7a1c\uf957\u7dbe\uf958\u83f1",
  "\uf959\u9675\uf95a\u8b80\uf95b\u62cf\uf95c\u6a02\uf95d\u8afe\uf95e\u4e39\uf95f\u5be7",
  "\uf960\u6012\uf961\u7387\uf962\u7570\uf963\u5317\uf964\u78fb\uf965\u4fbf\uf966\u5fa9",
  "\uf967\u4e0d\uf968\u6ccc\uf969\u6578\uf96a\u7d22\uf96b\u53c3\uf96c\u585e\uf96d\u7701",
  "\uf96e\u8449\uf96f\u8aaa\uf970\u6bba\uf971\u8fb0\uf972\u6c88\uf973\u62fe\uf974\u82e5",
  "\uf975\u63a0\uf976\u7565\uf977\u4eae\uf978\u5169\uf979\u51c9\uf97a\u6881\uf97b\u7ce7",
  "\uf97c\u826f\uf97d\u8ad2\uf97e\u91cf\uf97f\u52f5\uf980\u5442\uf981\u5973\uf982\u5eec",
  "\uf983\u65c5\uf984\u6ffe\uf985\u792a\uf986\u95ad\uf987\u9a6a\uf988\u9e97\uf989\u9ece",
  "\uf98a\u529b\uf98b\u66c6\uf98c\u6b77\uf98d\u8f62\uf98e\u5e74\uf98f\u6190\uf990\u6200",
  "\uf991\u649a\uf992\u6f23\uf993\u7149\uf994\u7489\uf995\u79ca\uf996\u7df4\uf997\u806f",
  "\uf998\u8f26\uf999\u84ee\uf99a\u9023\uf99b\u934a\uf99c\u5217\uf99d\u52a3\uf99e\u54bd",
  "\uf99f\u70c8\uf9a0\u88c2\uf9a1\u8aaa\uf9a2\u5ec9\uf9a3\u5ff5\uf9a4\u637b\uf9a5\u6bae",
  "\uf9a6\u7c3e\uf9a7\u7375\uf9a8\u4ee4\uf9a9\u56f9\uf9aa\u5be7\uf9ab\u5dba\uf9ac\u601c",
  "\uf9ad\u73b2\uf9ae\u7469\uf9af\u7f9a\uf9b0\u8046\uf9b1\u9234\uf9b2\u96f6\uf9b3\u9748",
  "\uf9b4\u9818\uf9b5\u4f8b\uf9b6\u79ae\uf9b7\u91b4\uf9b8\u96b8\uf9b9\u60e1\uf9ba\u4e86",
  "\uf9bb\u50da\uf9bc\u5bee\uf9bd\u5c3f\uf9be\u6599\uf9bf\u6a02\uf9c0\u71ce\uf9c1\u7642",
  "\uf9c2\u84fc\uf9c3\u907c\uf9c4\u9f8d\uf9c5\u6688\uf9c6\u962e\uf9c7\u5289\uf9c8\u677b",
  "\uf9c9\u67f3\uf9ca\u6d41\uf9cb\u6e9c\uf9cc\u7409\uf9cd\u7559\uf9ce\u786b\uf9cf\u7d10",
  "\uf9d0\u985e\uf9d1\u516d\uf9d2\u622e\uf9d3\u9678\uf9d4\u502b\uf9d5\u5d19\uf9d6\u6dea",
  "\uf9d7\u8f2a\uf9d8\u5f8b\uf9d9\u6144\uf9da\u6817\uf9db\u7387\uf9dc\u9686\uf9dd\u5229",
  "\uf9de\u540f\uf9df\u5c65\uf9e0\u6613\uf9e1\u674e\uf9e2\u68a8\uf9e3\u6ce5\uf9e4\u7406",
  "\uf9e5\u75e2\uf9e6\u7f79\uf9e7\u88cf\uf9e8\u88e1\uf9e9\u91cc\uf9ea\u96e2\uf9eb\u533f",
  "\uf9ec\u6eba\uf9ed\u541d\uf9ee\u71d0\uf9ef\u7498\uf9f0\u85fa\uf9f1\u96a3\uf9f2\u9c57",
  "\uf9f3\u9e9f\uf9f4\u6797\uf9f5\u6dcb\uf9f6\u81e8\uf9f7\u7acb\uf9f8\u7b20\uf9f9\u7c92",
  "\uf9fa\u72c0\uf9fb\u7099\uf9fc\u8b58\uf9fd\u4ec0\uf9fe\u8336\uf9ff\u523a\ufa00\u5207",
  "\ufa01\u5ea6\ufa02\u62d3\ufa03\u7cd6\ufa04\u5b85\ufa05\u6d1e\ufa06\u66b4\ufa07\u8f3b",
  "\ufa08\u884c\ufa09\u964d\ufa0a\u898b\ufa0b\u5ed3\ufa0c\u5140\ufa0d\u55c0\ufa10\u585a",
  "\ufa12\u6674\ufa15\u51de\ufa16\u732a\ufa17\u76ca\ufa18\u793c\ufa19\u795e\ufa1a\u7965",
  "\ufa1b\u798f\ufa1c\u9756\ufa1d\u7cbe\ufa1e\u7fbd\ufa20\u8612\ufa22\u8af8\ufa25\u9038",
  "\ufa26\u90fd\ufa2a\u98ef\ufa2b\u98fc\ufa2c\u9928\ufa2d\u9db4\ufa2e\u90de\ufa2f\u96b7",
  "\ufa30\u4fae\ufa31\u50e7\ufa32\u514d\ufa33\u52c9\ufa34\u52e4\ufa35\u5351\ufa36\u559d",
  "\ufa37\u5606\ufa38\u5668\ufa39\u5840\ufa3a\u58a8\ufa3b\u5c64\ufa3c\u5c6e\ufa3d\u6094",
  "\ufa3e\u6168\ufa3f\u618e\ufa40\u61f2\ufa41\u654f\ufa42\u65e2\ufa43\u6691\ufa44\u6885",
  "\ufa45\u6d77\ufa46\u6e1a\ufa47\u6f22\ufa48\u716e\ufa49\u722b\ufa4a\u7422\ufa4b\u7891",
  "\ufa4c\u793e\ufa4d\u7949\ufa4e\u7948\ufa4f\u7950\ufa50\u7956\ufa51\u795d\ufa52\u798d",
  "\ufa53\u798e\ufa54\u7a40\ufa55\u7a81\ufa56\u7bc0\ufa57\u7df4\ufa58\u7e09\ufa59\u7e41",
  "\ufa5a\u7f72\ufa5b\u8005\ufa5c\u81ed\ufa5d\u8279\ufa5e\u8279\ufa5f\u8457\ufa60\u8910",
  "\ufa61\u8996\ufa62\u8b01\ufa63\u8b39\ufa64\u8cd3\ufa65\u8d08\ufa66\u8fb6\ufa67\u9038",
  "\ufa68\u96e3\ufa69\u97ff\ufa6a\u983b\ufa6b\u6075\ufa6c𤋮\ufa6d\u8218\ufa70\u4e26\ufa71\u51b5",
  "\ufa72\u5168\ufa73\u4f80\ufa74\u5145\ufa75\u5180\ufa76\u52c7\ufa77\u52fa\ufa78\u559d",
  "\ufa79\u5555\ufa7a\u5599\ufa7b\u55e2\ufa7c\u585a\ufa7d\u58b3\ufa7e\u5944\ufa7f\u5954",
  "\ufa80\u5a62\ufa81\u5b28\ufa82\u5ed2\ufa83\u5ed9\ufa84\u5f69\ufa85\u5fad\ufa86\u60d8",
  "\ufa87\u614e\ufa88\u6108\ufa89\u618e\ufa8a\u6160\ufa8b\u61f2\ufa8c\u6234\ufa8d\u63c4",
  "\ufa8e\u641c\ufa8f\u6452\ufa90\u6556\ufa91\u6674\ufa92\u6717\ufa93\u671b\ufa94\u6756",
  "\ufa95\u6b79\ufa96\u6bba\ufa97\u6d41\ufa98\u6edb\ufa99\u6ecb\ufa9a\u6f22\ufa9b\u701e",
  "\ufa9c\u716e\ufa9d\u77a7\ufa9e\u7235\ufa9f\u72af\ufaa0\u732a\ufaa1\u7471\ufaa2\u7506",
  "\ufaa3\u753b\ufaa4\u761d\ufaa5\u761f\ufaa6\u76ca\ufaa7\u76db\ufaa8\u76f4\ufaa9\u774a",
  "\ufaaa\u7740\ufaab\u78cc\ufaac\u7ab1\ufaad\u7bc0\ufaae\u7c7b\ufaaf\u7d5b\ufab0\u7df4",
  "\ufab1\u7f3e\ufab2\u8005\ufab3\u8352\ufab4\u83ef\ufab5\u8779\ufab6\u8941\ufab7\u8986",
  "\ufab8\u8996\ufab9\u8abf\ufaba\u8af8\ufabb\u8acb\ufabc\u8b01\ufabd\u8afe\ufabe\u8aed",
  "\ufabf\u8b39\ufac0\u8b8a\ufac1\u8d08\ufac2\u8f38\ufac3\u9072\ufac4\u9199\ufac5\u9276",
  "\ufac6\u967c\ufac7\u96e3\ufac8\u9756\ufac9\u97db\ufaca\u97ff\ufacb\u980b\ufacc\u983b",
  "\ufacd\u9b12\uface\u9f9c\ufacf𢡊\ufad0𢡄\ufad1𣏕\ufad2\u3b9d\ufad3\u4018\ufad4\u4039\ufad5𥉉",
  "\ufad6𥳐\ufad7𧻓\ufad8\u9f43\ufad9\u9f8e丽\u4e3d丸\u4e38乁\u4e41𠄢𠄢你\u4f60侮\u4fae侻\u4fbb倂\u5002",
  "偺\u507a備\u5099僧\u50e7像\u50cf㒞\u349e𠘺𠘺免\u514d兔\u5154兤\u5164具\u5177𠔜𠔜㒹\u34b9內\u5167再\u518d𠕋𠕋",
  "冗\u5197冤\u51a4仌\u4ecc冬\u51ac况\u51b5𩇟𩇟凵\u51f5刃\u5203㓟\u34df刻\u523b剆\u5246割\u5272剷\u5277",
  "㔕\u3515勇\u52c7勉\u52c9勤\u52e4勺\u52fa包\u5305匆\u5306北\u5317卉\u5349卑\u5351博\u535a即\u5373卽\u537d",
  "卿\u537f卿\u537f卿\u537f𠨬𠨬灰\u7070及\u53ca叟\u53df𠭣𠭣叫\u53eb叱\u53f1吆\u5406咞\u549e吸\u5438呈\u5448",
  "周\u5468咢\u54a2哶\u54f6唐\u5510啓\u5553啣\u5563善\u5584善\u5584喙\u5599喫\u55ab喳\u55b3嗂\u55c2圖\u5716",
  "嘆\u5606圗\u5717噑\u5651噴\u5674切\u5207壮\u58ee城\u57ce埴\u57f4堍\u580d型\u578b堲\u5832報\u5831墬\u58ac",
  "𡓤𡓤売\u58f2壷\u58f7夆\u5906多\u591a夢\u5922奢\u5962𡚨𡚨𡛪𡛪姬\u59ec娛\u5a1b娧\u5a27姘\u59d8婦\u5a66㛮\u36ee",
  "㛼\u36fc嬈\u5b08嬾\u5b3e嬾\u5b3e𡧈𡧈寃\u5bc3寘\u5bd8寧\u5be7寳\u5bf3𡬘𡬘寿\u5bff将\u5c06当\u5f53尢\u5c22",
  "㞁\u3781屠\u5c60屮\u5c6e峀\u5cc0岍\u5c8d𡷤𡷤嵃\u5d43𡷦𡷦嵮\u5d6e嵫\u5d6b嵼\u5d7c巡\u5de1巢\u5de2㠯\u382f",
  "巽\u5dfd帨\u5e28帽\u5e3d幩\u5e69㡢\u3862𢆃𢆃㡼\u387c庰\u5eb0庳\u5eb3庶\u5eb6廊\u5eca𪎒𪎒廾\u5efe𢌱𢌱𢌱𢌱舁\u8201",
  "弢\u5f22弢\u5f22㣇\u38c7𣊸𣊸𦇚𦇚形\u5f62彫\u5f6b㣣\u38e3徚\u5f9a忍\u5fcd志\u5fd7忹\u5ff9悁\u6081㤺\u393a",
  "㤜\u391c悔\u6094𢛔𢛔惇\u60c7慈\u6148慌\u614c慎\u614e慌\u614c慺\u617a憎\u618e憲\u61b2憤\u61a4憯\u61af",
  "懞\u61de懲\u61f2懶\u61f6成\u6210戛\u621b扝\u625d抱\u62b1拔\u62d4捐\u6350𢬌𢬌挽\u633d拼\u62fc捨\u6368",
  "掃\u6383揤\u63e4𢯱𢯱搢\u6422揅\u63c5掩\u63a9㨮\u3a2e摩\u6469摾\u647e撝\u649d摷\u6477㩬\u3a6c敏\u654f",
  "敬\u656c𣀊𣀊旣\u65e3書\u66f8晉\u6649㬙\u3b19暑\u6691㬈\u3b08㫤\u3ae4冒\u5192冕\u5195最\u6700暜\u669c",
  "肭\u80ad䏙\u43d9朗\u6717望\u671b朡\u6721杞\u675e杓\u6753𣏃𣏃㭉\u3b49柺\u67fa枅\u6785桒\u6852梅\u6885𣑭𣑭",
  "梎\u688e栟\u681f椔\u6914㮝\u3b9d楂\u6942榣\u69a3槪\u69ea檨\u6aa8𣚣𣚣櫛\u6adb㰘\u3c18次\u6b21𣢧𣢧歔\u6b54",
  "㱎\u3c4e歲\u6b72殟\u6b9f殺\u6bba殻\u6bbb𣪍𣪍𡴋𡴋𣫺𣫺汎\u6c4e𣲼𣲼沿\u6cbf泍\u6ccd汧\u6c67洖\u6d16派\u6d3e海\u6d77",
  "流\u6d41浩\u6d69浸\u6d78涅\u6d85𣴞𣴞洴\u6d34港\u6e2f湮\u6e6e㴳\u3d33滋\u6ecb滇\u6ec7𣻑𣻑淹\u6df9潮\u6f6e𣽞𣽞𣾎𣾎",
  "濆\u6fc6瀹\u7039瀞\u701e瀛\u701b㶖\u3d96灊\u704a災\u707d灷\u7077炭\u70ad𠔥𠔥煅\u7145𤉣𤉣熜\u719c𤎫𤎫爨\u7228",
  "爵\u7235牐\u7250𤘈𤘈犀\u7280犕\u7295𤜵𤜵𤠔𤠔獺\u737a王\u738b㺬\u3eac玥\u73a5㺸\u3eb8㺸\u3eb8瑇\u7447瑜\u745c",
  "瑱\u7471璅\u7485瓊\u74ca㼛\u3f1b甤\u7524𤰶𤰶甾\u753e𤲒𤲒異\u7570𢆟𢆟瘐\u7610𤾡𤾡𤾸𤾸𥁄𥁄㿼\u3ffc䀈\u4008直\u76f4𥃳𥃳",
  "𥃲𥃲𥄙𥄙𥄳𥄳眞\u771e真\u771f真\u771f睊\u774a䀹\u4039瞋\u778b䁆\u4046䂖\u4096𥐝𥐝硎\u784e碌\u788c磌\u78cc䃣\u40e3",
  "𥘦𥘦祖\u7956𥚚𥚚𥛅𥛅福\u798f秫\u79eb䄯\u412f穀\u7a40穊\u7a4a穏\u7a4f𥥼𥥼𥪧𥪧𥪧𥪧竮\u7aee䈂\u4202𥮫𥮫篆\u7bc6築\u7bc9",
  "䈧\u4227𥲀𥲀糒\u7cd2䊠\u42a0糨\u7ce8糣\u7ce3紀\u7d00𥾆𥾆絣\u7d63䌁\u4301緇\u7dc7縂\u7e02繅\u7e45䌴\u4334𦈨𦈨𦉇𦉇",
  "䍙\u4359𦋙𦋙罺\u7f7a𦌾𦌾羕\u7f95翺\u7ffa者\u8005𦓚𦓚𦔣𦔣聠\u8060𦖨𦖨聰\u8070𣍟𣍟䏕\u43d5育\u80b2脃\u8103䐋\u440b",
  "脾\u813e媵\u5ab5𦞧𦞧𦞵𦞵𣎓𣎓𣎜𣎜舁\u8201舄\u8204辞\u8f9e䑫\u446b芑\u8291芋\u828b芝\u829d劳\u52b3花\u82b1芳\u82b3",
  "芽\u82bd苦\u82e6𦬼𦬼若\u82e5茝\u831d荣\u8363莭\u83ad茣\u8323莽\u83bd菧\u83e7著\u8457荓\u8353菊\u83ca",
  "菌\u83cc菜\u83dc𦰶𦰶𦵫𦵫𦳕𦳕䔫\u452b蓱\u84f1蓳\u84f3蔖\u8516𧏊𧏊蕤\u8564𦼬𦼬䕝\u455d䕡\u4561𦾱𦾱𧃒𧃒䕫\u456b虐\u8650",
  "虜\u865c虧\u8667虩\u8669蚩\u86a9蚈\u8688蜎\u870e蛢\u86e2蝹\u8779蜨\u8728蝫\u876b螆\u8786䗗\u45d7蟡\u87e1",
  "蠁\u8801䗹\u45f9衠\u8860衣\u8863𧙧𧙧裗\u88d7裞\u88de䘵\u4635裺\u88fa㒻\u34bb𧢮𧢮𧥦𧥦䚾\u46be䛇\u46c7誠\u8aa0",
  "諭\u8aed變\u8b8a豕\u8c55𧲨𧲨貫\u8cab賁\u8cc1贛\u8d1b起\u8d77𧼯𧼯𠠄𠠄跋\u8dcb趼\u8dbc跰\u8df0𠣞𠣞軔\u8ed4輸\u8f38",
  "𨗒𨗒𨗭𨗭邔\u9094郱\u90f1鄑\u9111𨜮𨜮鄛\u911b鈸\u9238鋗\u92d7鋘\u92d8鉼\u927c鏹\u93f9鐕\u9415𨯺𨯺開\u958b䦕\u4995",
  "閷\u95b7𨵷𨵷䧦\u49e6雃\u96c3嶲\u5db2霣\u9723𩅅𩅅𩈚𩈚䩮\u4a6e䩶\u4a76韠\u97e0𩐊𩐊䪲\u4ab2𩒖𩒖頋\u980b頋\u980b",
  "頩\u9829𩖶𩖶飢\u98e2䬳\u4b33餩\u9929馧\u99a7駂\u99c2駾\u99fe䯎\u4bce𩬰𩬰鬒\u9b12鱀\u9c40鳽\u9cfd䳎\u4cce",
  "䳭\u4ced鵧\u9d67𪃎𪃎䳸\u4cf8𪄅𪄅𪈎𪈎𪊑𪊑麻\u9ebb䵖\u4d56黹\u9ef9黾\u9efe鼅\u9f05鼏\u9f0f鼖\u9f16鼻\u9f3b𪘀𪘀"])

end StyleCheck.Text.Decomposition
