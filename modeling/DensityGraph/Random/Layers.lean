/-! # The layers of the normal density

The area under the density `exp (-x * x / 2)` cut into 256 layers of equal area: the right ends of the layers,
from the lowest layer upwards, and the heights of the density there.  Entries are the bits of
floating-point numbers.
-/

namespace DensityGraph.Random.Layers

/-- The bits of the right ends. -/
def endBits : Array UInt64 :=
  #[0x400f493b78164498, 0x400d3bb48209ad33, 0x400b981f3878f995, 0x400a8fdc7894718c, 0x4009cbee014050df,
    0x40092ee0946f3d1a, 0x4008ab0fbfaa7412, 0x400839030529e9c6, 0x4007d42df4d6c5c3, 0x400779955608fd5b,
    0x40072728f05f70d7, 0x4006db6b8d09d896, 0x40069540be9fdbed, 0x400653ce7b0060df, 0x40061669cf86140f,
    0x4005dc8a243ac693, 0x4005a5c08b718342, 0x400571b1a94ad95a, 0x40054011523a7359, 0x4005109f53e9a131,
    0x4004e3250dcd7dcc, 0x4004b7739d6b4ecc, 0x40048d62759c383d, 0x400464ce44a72e74, 0x40043d98155452d1,
    0x400417a49cb9d9f6, 0x4003f2dbaa60e871, 0x4003cf27b316f883, 0x4003ac7570ae7cb8, 0x40038ab3925634a9,
    0x400369d27a339bc1, 0x400349c405ae0606, 0x40032a7b5e6897e9, 0x40030becd256a217, 0x4002ee0db1a96c02,
    0x4002d0d43196ce88, 0x4002b4375329fd27, 0x4002982ecd770131, 0x40027cb2faa84bcb, 0x400261bcc7764b62,
    0x40024745a4ac8e8b, 0x40022d477a6fc63b, 0x400213bc9d04beb3, 0x4001fa9fc2e2cb18, 0x4001e1ebfbe4a036,
    0x4001c99ca9719877, 0x4001b1ad777f2157, 0x40019a1a564edd5a, 0x400182df74d203f5, 0x40016bf93b9de06e,
    0x4001556448601f9d, 0x40013f1d69c3fab5, 0x400129219bbb4e64, 0x4001136e04206156, 0x4000fdffefa690b2,
    0x4000e8d4cf115675, 0x4000d3ea34aa2df9, 0x4000bf3dd1eec4f7, 0x4000aacd7571b15a, 0x4000969708e892d0,
    0x400082988f631e79, 0x40006ed023a716b0, 0x40005b3bf6ada3ac, 0x400047da4e3ee5db, 0x400034a983a8f2a6,
    0x400021a8028fb929, 0x40000ed447d3903d, 0x3ffff859c118d567, 0x3fffd360d22fc6ae, 0x3fffaebb187101b4,
    0x3fff8a6604897644, 0x3fff665f20c8dff6, 0x3fff42a40fb72bc7, 0x3fff1f328ac23146, 0x3ffefc086101ca9b,
    0x3ffed923761084f7, 0x3ffeb681c0f74c90, 0x3ffe94214b2a9c5c, 0x3ffe72002f97db41, 0x3ffe501c99c1ae6f,
    0x3ffe2e74c4ea23a7, 0x3ffe0d06fb49ae98, 0x3ffdebd195520a7e, 0x3ffdcad2f8fc2520, 0x3ffdaa0999204a4d,
    0x3ffd8973f4d7d74d, 0x3ffd691096e7cc94, 0x3ffd48de1533a181, 0x3ffd28db1037ca23, 0x3ffd0906328b6a39,
    0x3ffce95e3068baca, 0x3ffcc9e1c73bb0ea, 0x3ffcaa8fbd367ccd, 0x3ffc8b66e0eb8000, 0x3ffc6c6608ec60b5,
    0x3ffc4d8c136de693, 0x3ffc2ed7e5f05369, 0x3ffc10486cebefa2, 0x3ffbf1dc9b81874a, 0x3ffbd3936b2e992e,
    0x3ffbb56bdb84fdbe, 0x3ffb9764f1e5cf51, 0x3ffb797db93f6101, 0x3ffb5bb541ce14a1, 0x3ffb3e0aa0dfe361,
    0x3ffb207cf09a6f7e, 0x3ffb030b4fc37800, 0x3ffae5b4e18b89de, 0x3ffac878cd5acc36, 0x3ffaab563e9fc731,
    0x3ffa8e4c64a00726, 0x3ffa715a724a7f4d, 0x3ffa547f9e0b90ef, 0x3ffa37bb21a29d81, 0x3ffa1b0c39f90b75,
    0x3ff9fe7226faa6ea, 0x3ff9e1ec2b6f486d, 0x3ff9c5798cd5ad43, 0x3ff9a919933f6d92, 0x3ff98ccb892dfdbf,
    0x3ff9708ebb70a936, 0x3ff954627903758c, 0x3ff9384612eeddb8, 0x3ff91c38dc2855bc, 0x3ff9003a297387bc,
    0x3ff8e44951443c0a, 0x3ff8c865aba0de35, 0x3ff8ac8e92059192, 0x3ff890c35f47c831, 0x3ff875036f7a4f7e,
    0x3ff8594e1fd1c628, 0x3ff83da2ce896f32, 0x3ff82200dac85645, 0x3ff80667a486b99e, 0x3ff7ead68c73ae15,
    0x3ff7cf4cf3daf1d9, 0x3ff7b3ca3c8ae294, 0x3ff7984dc8ba8bcb, 0x3ff77cd6faefc22d, 0x3ff7616535e540ad,
    0x3ff745f7dc70bc13, 0x3ff72a8e5168e1a6, 0x3ff70f27f78b3573, 0x3ff6f3c43161c483, 0x3ff6d86261289f28,
    0x3ff6bd01e8b30f36, 0x3ff6a1a229507dcf, 0x3ff6864283b0fbf7, 0x3ff66ae257c960d3, 0x3ff64f8104b6f00c,
    0x3ff6341de8a27a41, 0x3ff618b860a2e8ff, 0x3ff5fd4fc89f270f, 0x3ff5e1e37b2f5545, 0x3ff5c672d17d3b48,
    0x3ff5aafd2323e2fb, 0x3ff58f81c60e4c4c, 0x3ff574000e552644, 0x3ff558774e1b7925, 0x3ff53ce6d56a2c3d,
    0x3ff5214df20a50d8, 0x3ff505abef5e1a6d, 0x3ff4ea0016386a9c, 0x3ff4ce49acb2d5fd, 0x3ff4b287f6020506,
    0x3ff496ba3248525e, 0x3ff47adf9e6685ea, 0x3ff45ef773ca8993, 0x3ff44300e83bf25a, 0x3ff426fb2da63591,
    0x3ff40ae571e05f24, 0x3ff3eebede721aac, 0x3ff3d2869855dd80, 0x3ff3b63bbfb7fc17, 0x3ff399dd6fb270e9,
    0x3ff37d6abe05165d, 0x3ff360e2baca1034, 0x3ff3444470261b6a, 0x3ff3278ee1f4755f, 0x3ff30ac10d6e0469,
    0x3ff2edd9e8cb647f, 0x3ff2d0d862e172a1, 0x3ff2b3bb62b7e880, 0x3ff29681c7199017, 0x3ff2792a661d8bcd,
    0x3ff25bb40ca92399, 0x3ff23e1d7de97a07, 0x3ff2206572c47d17, 0x3ff2028a99405610, 0x3ff1e48b93e088dc,
    0x3ff1c666f8f7deb3, 0x3ff1a81b51ee20a3, 0x3ff189a71a788c7e, 0x3ff16b08bfc3d191, 0x3ff14c3e9f8e41d8,
    0x3ff12d470730bf74, 0x3ff10e203294c4bd, 0x3ff0eec84b15b64d, 0x3ff0cf3d664b796d, 0x3ff0af7d84bc0d06,
    0x3ff08f8690719efd, 0x3ff06f565b7249f9, 0x3ff04eea9e164ed4, 0x3ff02e40f5393759, 0x3ff00d56e041db89,
    0x3fefd8537df97991, 0x3fef956d9e87202b, 0x3fef51f654d83c88, 0x3fef0de784efa595, 0x3feec93abdf8c395,
    0x3fee83e93379ad08, 0x3fee3debb5d2292d, 0x3fedf73aa9f0ae8d, 0x3fedafce0022edee, 0x3fed679d29e3510d,
    0x3fed1e9f0e7fe5f7, 0x3fecd4c9fe7151ca, 0x3fec8a13a531630b, 0x3fec3e70f95872e0, 0x3febf1d62abea23b,
    0x3feba4368e51bb30, 0x3feb5584874191da, 0x3feb05b16d127fd5, 0x3feab4ad6e0f24ba, 0x3fea62676d76d6f5,
    0x3fea0eccdca3ab98, 0x3fe9b9c98e37c43b, 0x3fe96347822b1818, 0x3fe90b2ea94dc2a8, 0x3fe8b1649e7a632c,
    0x3fe855cc5341f023, 0x3fe7f845ad45d397, 0x3fe798ad10b200f0, 0x3fe736dad345c6b6, 0x3fe6d2a291feca73,
    0x3fe66bd261a2377e, 0x3fe60231cfd82f9b, 0x3fe59580a70673c9, 0x3fe5257562196c1c, 0x3fe4b1bb363c898d,
    0x3fe439ef8dfe170a, 0x3fe3bd9ec1a11c06, 0x3fe33c3fc055e9ed, 0x3fe2b52e38621b30, 0x3fe227a28f78456a,
    0x3fe192a6973f450a, 0x3fe0f5053b004b4e, 0x3fe04d32278c832e, 0x3fdf32482d4807a6, 0x3fddac2f5a6f3120,
    0x3fdc004d2f328d93, 0x3fda230c2e46389e, 0x3fd801fce827fac5, 0x3fd57cb9383ae550, 0x3fd250af3c200a69,
    0x3fcb8d0be3d69918, 0x0000000000000000]

/-- The bits of the heights. -/
def heightBits : Array UInt64 :=
  #[0x3f3f4a946f0d1e21, 0x3f54a605b6b9f70f, 0x3f655f9f43c1d644, 0x3f708a1f03b0d9d7, 0x3f769ea8d90cf658,
    0x3f7ce160f8ecbd47, 0x3f81a5922995660b, 0x3f84eb96421b129f, 0x3f8841040d8df3ca, 0x3f8ba48d274febdc,
    0x3f8f152a4f734696, 0x3f91490334606b67, 0x3f930d388daba032, 0x3f94d6eaf2fbf966, 0x3f96a5daf40c0f87,
    0x3f9879d1b6011823, 0x3f9a529f4e234a42, 0x3f9c301983cd6ea9, 0x3f9e121adb82f964, 0x3f9ff881d7191a2c,
    0x3fa0f1982e96be0f, 0x3fa1e9059f1fac92, 0x3fa2e27ce83e3a4f, 0x3fa3ddf2ce993869, 0x3fa4db5d0e1174f2,
    0x3fa5dab23cf2ff69, 0x3fa6dbe9b3992600, 0x3fa7defb77af80c9, 0x3fa8e3e02a691375, 0x3fa9ea90f929b758,
    0x3faaf3079038c597, 0x3fabfd3e0f289491, 0x3fad092efeae600a, 0x3fae16d547b2c47c, 0x3faf262c2b6ce583,
    0x3fb01b979e31226f, 0x3fb0a4ed2c15d631, 0x3fb12f14d0f259e6, 0x3fb1ba0cbe97ce08, 0x3fb245d344dd5460,
    0x3fb2d266cf9b7a28, 0x3fb35fc5e4d989d0, 0x3fb3edef2326e83c, 0x3fb47ce1401b7223, 0x3fb50c9b06fa7e17,
    0x3fb59d1b5774bb6b, 0x3fb62e612485a445, 0x3fb6c06b7369a3e7, 0x3fb753395aaa6d7f, 0x3fb7e6ca013f4e4d,
    0x3fb87b1c9dbf893e, 0x3fb9103075a50413, 0x3fb9a604dc9dc0fe, 0x3fba3c9933eacaf5, 0x3fbad3ece9cb6128,
    0x3fbb6bff78f34fb7, 0x3fbc04d0680b802c, 0x3fbc9e5f493be6bd, 0x3fbd38abb9be0731, 0x3fbdd3b561776082,
    0x3fbe6f7bf29b1fea, 0x3fbf0bff29528b67, 0x3fbfa93ecb6ba232, 0x3fc0239d5406be88, 0x3fc072f94bb9023d,
    0x3fc0c2b33d524dd1, 0x3fc112cb1da2b434, 0x3fc16340e5a87443, 0x3fc1b4149275c58a, 0x3fc20546251885e5,
    0x3fc256d5a283a9d2, 0x3fc2a8c3137a53a6, 0x3fc2fb0e847c7863, 0x3fc34db805b4fafa, 0x3fc3a0bfaae928d4,
    0x3fc3f4258b698410, 0x3fc447e9c203c9b4, 0x3fc49c0c6cf6238e, 0x3fc4f08dade376a4, 0x3fc5456da9c8c09d,
    0x3fc59aac88f3775c, 0x3fc5f04a76f8df6f, 0x3fc64647a2ae4e9c, 0x3fc69ca43e2250e8, 0x3fc6f3607e96a72f,
    0x3fc74a7c9c7b1751, 0x3fc7a1f8d3690665, 0x3fc7f9d5621fd650, 0x3fc852128a8200b0, 0x3fc8aab09192e973,
    0x3fc903afbf756425, 0x3fc95d105f6ae788, 0x3fc9b6d2bfd36b63, 0x3fca10f7322decf1, 0x3fca6b7e0b1996df,
    0x3fcac667a2578a1b, 0x3fcb21b452cd4505, 0x3fcb7d647a87a72b, 0x3fcbd9787abe8fde, 0x3fcc35f0b7d91641,
    0x3fcc92cd99725a10, 0x3fccf00f8a5eec4b, 0x3fcd4db6f8b2cf92, 0x3fcdabc455c81015, 0x3fce0a381645f35f,
    0x3fce6912b228c089, 0x3fcec854a4ca21c2, 0x3fcf27fe6cea202a, 0x3fcf88108cb8bb6b, 0x3fcfe88b89e01ed8,
    0x3fd024b7f6c7baf9, 0x3fd0555f22433149, 0x3fd0863b8f908b9b, 0x3fd0b74d88b28c36, 0x3fd0e8955987541a,
    0x3fd11a134fcf6f75, 0x3fd14bc7bb353ab8, 0x3fd17db2ed54a239, 0x3fd1afd539c33ea1, 0x3fd1e22ef618d06b,
    0x3fd214c079f81cf7, 0x3fd2478a1f182fe8, 0x3fd27a8c414e0385, 0x3fd2adc73e96934e, 0x3fd2e13b77215be5,
    0x3fd314e94d5b4bbe, 0x3fd348d125fa283f, 0x3fd37cf368086b2c, 0x3fd3b1507cf19c77, 0x3fd3e5e8d08f2cbb,
    0x3fd41abcd135d515, 0x3fd44fccefc38117, 0x3fd485199fadc80d, 0x3fd4baa35710fafe, 0x3fd4f06a8ebfcd13,
    0x3fd5266fc2539c94, 0x3fd55cb3703d62d1, 0x3fd5933619d751bc, 0x3fd5c9f843772671, 0x3fd600fa74813828,
    0x3fd6383d377c4bab, 0x3fd66fc11a2633af, 0x3fd6a786ad894727, 0x3fd6df8e8612b6ec, 0x3fd717d93ba9cccd,
    0x3fd7506769c81eaf, 0x3fd78939af92c0f3, 0x3fd7c250aff48400, 0x3fd7fbad11b949ad, 0x3fd8354f7faa7fc5,
    0x3fd86f38a8accdf4, 0x3fd8a9693fdf061c, 0x3fd8e3e1fcba6703, 0x3fd91ea39b344260, 0x3fd959aedbe1183b,
    0x3fd9950484193ad3, 0x3fd9d0a55e1f0f53, 0x3fda0c923947011e, 0x3fda48cbea213e9e, 0x3fda85534aa55844,
    0x3fdac2293a5fdbd7, 0x3fdaff4e9ea20806, 0x3fdb3cc462b3b5fc, 0x3fdb7a8b780798d0, 0x3fdbb8a4d671f4cd,
    0x3fdbf7117c61f2de, 0x3fdc35d26f1db70f, 0x3fdc74e8bb0163b2, 0x3fdcb45573c135cb, 0x3fdcf419b4aeea8e,
    0x3fdd3436a102a142, 0x3fdd74ad6427709c, 0x3fddb57f320beac8, 0x3fddf6ad4776cfd2, 0x3fde3838ea603307,
    0x3fde7a236a4f5d07, 0x3fdebc6e20bdba59, 0x3fdeff1a717f2c62, 0x3fdf4229cb301990, 0x3fdf859da7a9a13d,
    0x3fdfc9778c7c5ff1, 0x3fe006dc85b91cde, 0x3fe02931e18bd539, 0x3fe04bbcafa69335, 0x3fe06e7dccf09138,
    0x3fe091761d99b381, 0x3fe0b4a68d7130b1, 0x3fe0d81010419aaa, 0x3fe0fbb3a232b228, 0x3fe11f924831795c,
    0x3fe143ad105f04d3, 0x3fe168051286962a, 0x3fe18c9b709b99bd, 0x3fe1b17157402fa1, 0x3fe1d687fe54f920,
    0x3fe1fbe0a992f702, 0x3fe2217ca9305a04, 0x3fe2475d5a913ecc, 0x3fe26d8429056971, 0x3fe293f28e9432db,
    0x3fe2baaa14d7fc57, 0x3fe2e1ac55eaa449, 0x3fe308fafd64a29f, 0x3fe33097c970a541, 0x3fe358848bf5bd57,
    0x3fe380c32bda6ead, 0x3fe3a955a6633c57, 0x3fe3d23e10afa266, 0x3fe3fb7e9958cdc7, 0x3fe425198a35d3b3,
    0x3fe44f114a49abdd, 0x3fe479685fdfc714, 0x3fe4a42172dccb23, 0x3fe4cf3f4f49c91e, 0x3fe4fac4e8213283,
    0x3fe526b55a65eabb, 0x3fe55313f08e1e03, 0x3fe57fe4264d0f30, 0x3fe5ad29acc8e01c, 0x3fe5dae86f4b84fe,
    0x3fe609249880ae0a, 0x3fe637e2985595df, 0x3fe667272a936f1e, 0x3fe696f75e51c96b, 0x3fe6c7589e63eb25,
    0x3fe6f850baeb0dfb, 0x3fe729e5f44002a7, 0x3fe75c1f0771708d, 0x3fe78f033ca14bc9, 0x3fe7c29a779d0627,
    0x3fe7f6ed4b218395, 0x3fe82c050f577355, 0x3fe861ebfc3863d6, 0x3fe898ad48bb899a, 0x3fe8d0554fe6b8dc,
    0x3fe908f1bd322352, 0x3fe94291c21c3052, 0x3fe97d4657623514, 0x3fe9b9228d24c563, 0x3fe9f63bee65e399,
    0x3fea34aafdf6780c, 0x3fea748bd5519883, 0x3feab5fef17af9c6, 0x3feaf92a3f6dc413, 0x3feb3e3a8235bfda,
    0x3feb85653a90e040, 0x3febceeb4ee2d08d, 0x3fec1b1cd9efb947, 0x3fec6a5eceaa82b8, 0x3fecbd33a8a84602,
    0x3fed144978a24289, 0x3fed70920658fa12, 0x3fedd36fa70635f9, 0x3fee3f11e0296bb2, 0x3feeb7545b6e5a2d,
    0x3fef446ac97c0265, 0x3ff0000000000000]

def rightEnd (layer : Nat) : Float := Float.ofBits (endBits.getD layer 0)

/-- The height of the density at the right end of a layer. -/
def height (layer : Nat) : Float := Float.ofBits (heightBits.getD layer 0)

end DensityGraph.Random.Layers
