/-! Characters that several others stand for in a domain, in hexadecimal numbers. -/

namespace Availability.Url.Domain

/-- Characters by the distance from the one before, each with those that stand for it. -/
def expansionLines : List String := [
  "a8.20.308 6.20.304 4.20.301 3.20.327 3.31.2044.34 0.31.2044.32 0.33.2044.34 71.69.307 1.69.6a 0.69.6a",
  "b.6c.b7 0.6c.b7 8.2bc.6e 7a.64.17e 0.64.17e 0.64.17e 0.6c.6a 0.6c.6a 0.6c.6a 0.6e.6a 0.6e.6a 0.6e.6a",
  "24.64.7a 0.64.7a 0.64.7a e4.20.306 0.20.307 0.20.30a 0.20.328 0.20.303 0.20.30b 66.308.301 35.20.3b9",
  "9.20.301 0.20.308.301 201.565.582 ed.627.674 0.648.674 0.6c7.674 0.64a.674 2df.915.93c 0.916.93c 0.917.93c",
  "0.91c.93c 0.921.93c 0.922.93c 0.92b.93c 0.92f.93c 7c.9a1.9bc 0.9a2.9bc 1.9af.9bc 53.a32.a3c 2.a38.a3c",
  "22.a16.a3c 0.a17.a3c 0.a1c.a3c 2.a2b.a3c fd.b21.b3c 0.b22.b3c 2d5.e4d.e32 7f.ecd.eb2 28.eab.e99 0.eab.ea1",
  "65.f42.fb7 9.f4c.fb7 4.f51.fb7 4.f56.fb7 4.f5b.fb7 c.f40.fb5 9.f71.f72 1.f71.f74 0.fb2.f80 0.fb2.f71.f80",
  "0.fb3.f80 0.fb3.f71.f80 7.f71.f80 11.f92.fb7 9.f9c.fb7 4.fa1.fb7 4.fa6.fb7 4.fab.fb7 c.f90.fb5 ee0.61.2be",
  "e5.1f00.3b9 0.1f01.3b9 0.1f02.3b9 0.1f03.3b9 0.1f04.3b9 0.1f05.3b9 0.1f06.3b9 0.1f07.3b9 0.1f00.3b9",
  "0.1f01.3b9 0.1f02.3b9 0.1f03.3b9 0.1f04.3b9 0.1f05.3b9 0.1f06.3b9 0.1f07.3b9 0.1f20.3b9 0.1f21.3b9",
  "0.1f22.3b9 0.1f23.3b9 0.1f24.3b9 0.1f25.3b9 0.1f26.3b9 0.1f27.3b9 0.1f20.3b9 0.1f21.3b9 0.1f22.3b9",
  "0.1f23.3b9 0.1f24.3b9 0.1f25.3b9 0.1f26.3b9 0.1f27.3b9 0.1f60.3b9 0.1f61.3b9 0.1f62.3b9 0.1f63.3b9",
  "0.1f64.3b9 0.1f65.3b9 0.1f66.3b9 0.1f67.3b9 0.1f60.3b9 0.1f61.3b9 0.1f62.3b9 0.1f63.3b9 0.1f64.3b9",
  "0.1f65.3b9 0.1f66.3b9 0.1f67.3b9 2.1f70.3b9 0.3b1.3b9 0.3ac.3b9 2.1fb6.3b9 4.3b1.3b9 0.20.313 1.20.313",
  "0.20.342 0.20.308.342 0.1f74.3b9 0.3b7.3b9 0.3ae.3b9 2.1fc6.3b9 4.3b7.3b9 0.20.313.300 0.20.313.301",
  "0.20.313.342 d.20.314.300 0.20.314.301 0.20.314.342 d.20.308.300 0.20.308.301 3.1f7c.3b9 0.3c9.3b9",
  "0.3ce.3b9 2.1ff6.3b9 4.3c9.3b9 0.20.301 0.20.314 18.20.333 1b.2032.2032 0.2032.2032.2032 1.2035.2035",
  "0.2035.2035.2035 4.21.21 1.20.305 8.3f.3f 0.3f.21 0.21.3f d.2032.2032.2032.2032 50.72.73 57.61.2f.63",
  "0.61.2f.73 1.b0.63 1.63.2f.6f 0.63.2f.75 2.b0.66 c.6e.6f 9.73.6d 0.74.65.6c 0.74.6d 18.66.61.78",
  "14.31.2044.37 0.31.2044.39 0.31.2044.31.30 0.31.2044.33 0.32.2044.33 0.31.2044.35 0.32.2044.35",
  "0.33.2044.35 0.34.2044.35 0.31.2044.36 0.35.2044.36 0.31.2044.38 0.33.2044.38 0.35.2044.38 0.37.2044.38",
  "0.31.2044 1.69.69 0.69.69.69 0.69.76 1.76.69 0.76.69.69 0.76.69.69.69 0.69.78 1.78.69 0.78.69.69 5.69.69",
  "0.69.69.69 0.69.76 1.76.69 0.76.69.69 0.76.69.69.69 0.69.78 1.78.69 0.78.69.69 d.30.2044.33 a2.222b.222b",
  "0.222b.222b.222b 1.222e.222e 0.222e.222e.222e 238.31.30 0.31.31 0.31.32 0.31.33 0.31.34 0.31.35 0.31.36",
  "0.31.37 0.31.38 0.31.39 0.32.30 0.28.31.29 0.28.32.29 0.28.33.29 0.28.34.29 0.28.35.29 0.28.36.29",
  "0.28.37.29 0.28.38.29 0.28.39.29 0.28.31.30.29 0.28.31.31.29 0.28.31.32.29 0.28.31.33.29 0.28.31.34.29",
  "0.28.31.35.29 0.28.31.36.29 0.28.31.37.29 0.28.31.38.29 0.28.31.39.29 0.28.32.30.29 14.28.61.29 0.28.62.29",
  "0.28.63.29 0.28.64.29 0.28.65.29 0.28.66.29 0.28.67.29 0.28.68.29 0.28.69.29 0.28.6a.29 0.28.6b.29",
  "0.28.6c.29 0.28.6d.29 0.28.6e.29 0.28.6f.29 0.28.70.29 0.28.71.29 0.28.72.29 0.28.73.29 0.28.74.29",
  "0.28.75.29 0.28.76.29 0.28.77.29 0.28.78.29 0.28.79.29 0.28.7a.29 556.222b.222b.222b.222b 67.3a.3a.3d",
  "0.3d.3d 0.3d.3d.3d 65.2add.338 5be.20.3099 0.20.309a 2.3088.308a 5f.30b3.30c8 100.28.1100.29 0.28.1102.29",
  "0.28.1103.29 0.28.1105.29 0.28.1106.29 0.28.1107.29 0.28.1109.29 0.28.110b.29 0.28.110c.29 0.28.110e.29",
  "0.28.110f.29 0.28.1110.29 0.28.1111.29 0.28.1112.29 0.28.ac00.29 0.28.b098.29 0.28.b2e4.29 0.28.b77c.29",
  "0.28.b9c8.29 0.28.bc14.29 0.28.c0ac.29 0.28.c544.29 0.28.c790.29 0.28.cc28.29 0.28.ce74.29 0.28.d0c0.29",
  "0.28.d30c.29 0.28.d558.29 0.28.c8fc.29 0.28.c624.c804.29 0.28.c624.d6c4.29 1.28.4e00.29 0.28.4e8c.29",
  "0.28.4e09.29 0.28.56db.29 0.28.4e94.29 0.28.516d.29 0.28.4e03.29 0.28.516b.29 0.28.4e5d.29 0.28.5341.29",
  "0.28.6708.29 0.28.706b.29 0.28.6c34.29 0.28.6728.29 0.28.91d1.29 0.28.571f.29 0.28.65e5.29 0.28.682a.29",
  "0.28.6709.29 0.28.793e.29 0.28.540d.29 0.28.7279.29 0.28.8ca1.29 0.28.795d.29 0.28.52b4.29 0.28.4ee3.29",
  "0.28.547c.29 0.28.5b66.29 0.28.76e3.29 0.28.4f01.29 0.28.8cc7.29 0.28.5354.29 0.28.796d.29 0.28.4f11.29",
  "0.28.81ea.29 0.28.81f3.29 c.70.74.65 0.32.31 0.32.32 0.32.33 0.32.34 0.32.35 0.32.36 0.32.37 0.32.38",
  "0.32.39 0.33.30 0.33.31 0.33.32 0.33.33 0.33.34 0.33.35 1c.cc38.ace0 0.c8fc.c758 33.33.36 0.33.37 0.33.38",
  "0.33.39 0.34.30 0.34.31 0.34.32 0.34.33 0.34.34 0.34.35 0.34.36 0.34.37 0.34.38 0.34.39 0.35.30 0.31.6708",
  "0.32.6708 0.33.6708 0.34.6708 0.35.6708 0.36.6708 0.37.6708 0.38.6708 0.39.6708 0.31.30.6708 0.31.31.6708",
  "0.31.32.6708 0.68.67 0.65.72.67 0.65.76 0.6c.74.64 2f.4ee4.548c 0.30a2.30d1.30fc.30c8",
  "0.30a2.30eb.30d5.30a1 0.30a2.30f3.30da.30a2 0.30a2.30fc.30eb 0.30a4.30cb.30f3.30b0 0.30a4.30f3.30c1",
  "0.30a6.30a9.30f3 0.30a8.30b9.30af.30fc.30c9 0.30a8.30fc.30ab.30fc 0.30aa.30f3.30b9 0.30aa.30fc.30e0",
  "0.30ab.30a4.30ea 0.30ab.30e9.30c3.30c8 0.30ab.30ed.30ea.30fc 0.30ac.30ed.30f3 0.30ac.30f3.30de 0.30ae.30ac",
  "0.30ae.30cb.30fc 0.30ad.30e5.30ea.30fc 0.30ae.30eb.30c0.30fc 0.30ad.30ed 0.30ad.30ed.30b0.30e9.30e0",
  "0.30ad.30ed.30e1.30fc.30c8.30eb 0.30ad.30ed.30ef.30c3.30c8 0.30b0.30e9.30e0 0.30b0.30e9.30e0.30c8.30f3",
  "0.30af.30eb.30bc.30a4.30ed 0.30af.30ed.30fc.30cd 0.30b1.30fc.30b9 0.30b3.30eb.30ca 0.30b3.30fc.30dd",
  "0.30b5.30a4.30af.30eb 0.30b5.30f3.30c1.30fc.30e0 0.30b7.30ea.30f3.30b0 0.30bb.30f3.30c1 0.30bb.30f3.30c8",
  "0.30c0.30fc.30b9 0.30c7.30b7 0.30c9.30eb 0.30c8.30f3 0.30ca.30ce 0.30ce.30c3.30c8 0.30cf.30a4.30c4",
  "0.30d1.30fc.30bb.30f3.30c8 0.30d1.30fc.30c4 0.30d0.30fc.30ec.30eb 0.30d4.30a2.30b9.30c8.30eb",
  "0.30d4.30af.30eb 0.30d4.30b3 0.30d3.30eb 0.30d5.30a1.30e9.30c3.30c9 0.30d5.30a3.30fc.30c8",
  "0.30d6.30c3.30b7.30a7.30eb 0.30d5.30e9.30f3 0.30d8.30af.30bf.30fc.30eb 0.30da.30bd 0.30da.30cb.30d2",
  "0.30d8.30eb.30c4 0.30da.30f3.30b9 0.30da.30fc.30b8 0.30d9.30fc.30bf 0.30dd.30a4.30f3.30c8 0.30dc.30eb.30c8",
  "0.30db.30f3 0.30dd.30f3.30c9 0.30db.30fc.30eb 0.30db.30fc.30f3 0.30de.30a4.30af.30ed 0.30de.30a4.30eb",
  "0.30de.30c3.30cf 0.30de.30eb.30af 0.30de.30f3.30b7.30e7.30f3 0.30df.30af.30ed.30f3 0.30df.30ea",
  "0.30df.30ea.30d0.30fc.30eb 0.30e1.30ac 0.30e1.30ac.30c8.30f3 0.30e1.30fc.30c8.30eb 0.30e4.30fc.30c9",
  "0.30e4.30fc.30eb 0.30e6.30a2.30f3 0.30ea.30c3.30c8.30eb 0.30ea.30e9 0.30eb.30d4.30fc 0.30eb.30fc.30d6.30eb",
  "0.30ec.30e0 0.30ec.30f3.30c8.30b2.30f3 0.30ef.30c3.30c8 0.30.70b9 0.31.70b9 0.32.70b9 0.33.70b9 0.34.70b9",
  "0.35.70b9 0.36.70b9 0.37.70b9 0.38.70b9 0.39.70b9 0.31.30.70b9 0.31.31.70b9 0.31.32.70b9 0.31.33.70b9",
  "0.31.34.70b9 0.31.35.70b9 0.31.36.70b9 0.31.37.70b9 0.31.38.70b9 0.31.39.70b9 0.32.30.70b9 0.32.31.70b9",
  "0.32.32.70b9 0.32.33.70b9 0.32.34.70b9 0.68.70.61 0.64.61 0.61.75 0.62.61.72 0.6f.76 0.70.63 0.64.6d",
  "0.64.6d.32 0.64.6d.33 0.69.75 0.5e73.6210 0.662d.548c 0.5927.6b63 0.660e.6cbb 0.682a.5f0f.4f1a.793e",
  "0.70.61 0.6e.61 0.3bc.61 0.6d.61 0.6b.61 0.6b.62 0.6d.62 0.67.62 0.63.61.6c 0.6b.63.61.6c 0.70.66 0.6e.66",
  "0.3bc.66 0.3bc.67 0.6d.67 0.6b.67 0.68.7a 0.6b.68.7a 0.6d.68.7a 0.67.68.7a 0.74.68.7a 0.3bc.6c 0.6d.6c",
  "0.64.6c 0.6b.6c 0.66.6d 0.6e.6d 0.3bc.6d 0.6d.6d 0.63.6d 0.6b.6d 0.6d.6d.32 0.63.6d.32 0.6d.32 0.6b.6d.32",
  "0.6d.6d.33 0.63.6d.33 0.6d.33 0.6b.6d.33 0.6d.2215.73 0.6d.2215.73.32 0.70.61 0.6b.70.61 0.6d.70.61",
  "0.67.70.61 0.72.61.64 0.72.61.64.2215.73 0.72.61.64.2215.73.32 0.70.73 0.6e.73 0.3bc.73 0.6d.73 0.70.76",
  "0.6e.76 0.3bc.76 0.6d.76 0.6b.76 0.6d.76 0.70.77 0.6e.77 0.3bc.77 0.6d.77 0.6b.77 0.6d.77 0.6b.3c9",
  "0.6d.3c9 1.62.71 0.63.63 0.63.64 0.63.2215.6b.67 1.64.62 0.67.79 0.68.61 0.68.70 0.69.6e 0.6b.6b 0.6b.6d",
  "0.6b.74 0.6c.6d 0.6c.6e 0.6c.6f.67 0.6c.78 0.6d.62 0.6d.69.6c 0.6d.6f.6c 0.70.68 1.70.70.6d 0.70.72",
  "0.73.72 0.73.76 0.77.62 0.76.2215.6d 0.61.2215.6d 0.31.65e5 0.32.65e5 0.33.65e5 0.34.65e5 0.35.65e5",
  "0.36.65e5 0.37.65e5 0.38.65e5 0.39.65e5 0.31.30.65e5 0.31.31.65e5 0.31.32.65e5 0.31.33.65e5 0.31.34.65e5",
  "0.31.35.65e5 0.31.36.65e5 0.31.37.65e5 0.31.38.65e5 0.31.39.65e5 0.32.30.65e5 0.32.31.65e5 0.32.32.65e5",
  "0.32.33.65e5 0.32.34.65e5 0.32.35.65e5 0.32.36.65e5 0.32.37.65e5 0.32.38.65e5 0.32.39.65e5 0.33.30.65e5",
  "0.33.31.65e5 0.67.61.6c c700.66.66 0.66.69 0.66.6c 0.66.66.69 0.66.66.6c 0.73.74 0.73.74 c.574.576",
  "0.574.565 0.574.56b 0.57e.576 0.574.56d 5.5d9.5b4 1.5f2.5b7 a.5e9.5c1 0.5e9.5c2 0.5e9.5bc.5c1",
  "0.5e9.5bc.5c2 0.5d0.5b7 0.5d0.5b8 0.5d0.5bc 0.5d1.5bc 0.5d2.5bc 0.5d3.5bc 0.5d4.5bc 0.5d5.5bc 0.5d6.5bc",
  "1.5d8.5bc 0.5d9.5bc 0.5da.5bc 0.5db.5bc 0.5dc.5bc 1.5de.5bc 1.5e0.5bc 0.5e1.5bc 1.5e3.5bc 0.5e4.5bc",
  "1.5e6.5bc 0.5e7.5bc 0.5e8.5bc 0.5e9.5bc 0.5ea.5bc 0.5d5.5b9 0.5d1.5bf 0.5db.5bf 0.5e4.5bf 0.5d0.5dc",
  "8d.6c7.674 c.626.627 0.626.627 0.626.6d5 0.626.6d5 0.626.648 0.626.648 0.626.6c7 0.626.6c7 0.626.6c6",
  "0.626.6c6 0.626.6c8 0.626.6c8 0.626.6d0 0.626.6d0 0.626.6d0 0.626.649 0.626.649 0.626.649 4.626.62c",
  "0.626.62d 0.626.645 0.626.649 0.626.64a 0.628.62c 0.628.62d 0.628.62e 0.628.645 0.628.649 0.628.64a",
  "0.62a.62c 0.62a.62d 0.62a.62e 0.62a.645 0.62a.649 0.62a.64a 0.62b.62c 0.62b.645 0.62b.649 0.62b.64a",
  "0.62c.62d 0.62c.645 0.62d.62c 0.62d.645 0.62e.62c 0.62e.62d 0.62e.645 0.633.62c 0.633.62d 0.633.62e",
  "0.633.645 0.635.62d 0.635.645 0.636.62c 0.636.62d 0.636.62e 0.636.645 0.637.62d 0.637.645 0.638.645",
  "0.639.62c 0.639.645 0.63a.62c 0.63a.645 0.641.62c 0.641.62d 0.641.62e 0.641.645 0.641.649 0.641.64a",
  "0.642.62d 0.642.645 0.642.649 0.642.64a 0.643.627 0.643.62c 0.643.62d 0.643.62e 0.643.644 0.643.645",
  "0.643.649 0.643.64a 0.644.62c 0.644.62d 0.644.62e 0.644.645 0.644.649 0.644.64a 0.645.62c 0.645.62d",
  "0.645.62e 0.645.645 0.645.649 0.645.64a 0.646.62c 0.646.62d 0.646.62e 0.646.645 0.646.649 0.646.64a",
  "0.647.62c 0.647.645 0.647.649 0.647.64a 0.64a.62c 0.64a.62d 0.64a.62e 0.64a.645 0.64a.649 0.64a.64a",
  "0.630.670 0.631.670 0.649.670 0.20.64c.651 0.20.64d.651 0.20.64e.651 0.20.64f.651 0.20.650.651",
  "0.20.651.670 0.626.631 0.626.632 0.626.645 0.626.646 0.626.649 0.626.64a 0.628.631 0.628.632 0.628.645",
  "0.628.646 0.628.649 0.628.64a 0.62a.631 0.62a.632 0.62a.645 0.62a.646 0.62a.649 0.62a.64a 0.62b.631",
  "0.62b.632 0.62b.645 0.62b.646 0.62b.649 0.62b.64a 0.641.649 0.641.64a 0.642.649 0.642.64a 0.643.627",
  "0.643.644 0.643.645 0.643.649 0.643.64a 0.644.645 0.644.649 0.644.64a 0.645.627 0.645.645 0.646.631",
  "0.646.632 0.646.645 0.646.646 0.646.649 0.646.64a 0.649.670 0.64a.631 0.64a.632 0.64a.645 0.64a.646",
  "0.64a.649 0.64a.64a 0.626.62c 0.626.62d 0.626.62e 0.626.645 0.626.647 0.628.62c 0.628.62d 0.628.62e",
  "0.628.645 0.628.647 0.62a.62c 0.62a.62d 0.62a.62e 0.62a.645 0.62a.647 0.62b.645 0.62c.62d 0.62c.645",
  "0.62d.62c 0.62d.645 0.62e.62c 0.62e.645 0.633.62c 0.633.62d 0.633.62e 0.633.645 0.635.62d 0.635.62e",
  "0.635.645 0.636.62c 0.636.62d 0.636.62e 0.636.645 0.637.62d 0.638.645 0.639.62c 0.639.645 0.63a.62c",
  "0.63a.645 0.641.62c 0.641.62d 0.641.62e 0.641.645 0.642.62d 0.642.645 0.643.62c 0.643.62d 0.643.62e",
  "0.643.644 0.643.645 0.644.62c 0.644.62d 0.644.62e 0.644.645 0.644.647 0.645.62c 0.645.62d 0.645.62e",
  "0.645.645 0.646.62c 0.646.62d 0.646.62e 0.646.645 0.646.647 0.647.62c 0.647.645 0.647.670 0.64a.62c",
  "0.64a.62d 0.64a.62e 0.64a.645 0.64a.647 0.626.645 0.626.647 0.628.645 0.628.647 0.62a.645 0.62a.647",
  "0.62b.645 0.62b.647 0.633.645 0.633.647 0.634.645 0.634.647 0.643.644 0.643.645 0.644.645 0.646.645",
  "0.646.647 0.64a.645 0.64a.647 0.640.64e.651 0.640.64f.651 0.640.650.651 0.637.649 0.637.64a 0.639.649",
  "0.639.64a 0.63a.649 0.63a.64a 0.633.649 0.633.64a 0.634.649 0.634.64a 0.62d.649 0.62d.64a 0.62c.649",
  "0.62c.64a 0.62e.649 0.62e.64a 0.635.649 0.635.64a 0.636.649 0.636.64a 0.634.62c 0.634.62d 0.634.62e",
  "0.634.645 0.634.631 0.633.631 0.635.631 0.636.631 0.637.649 0.637.64a 0.639.649 0.639.64a 0.63a.649",
  "0.63a.64a 0.633.649 0.633.64a 0.634.649 0.634.64a 0.62d.649 0.62d.64a 0.62c.649 0.62c.64a 0.62e.649",
  "0.62e.64a 0.635.649 0.635.64a 0.636.649 0.636.64a 0.634.62c 0.634.62d 0.634.62e 0.634.645 0.634.631",
  "0.633.631 0.635.631 0.636.631 0.634.62c 0.634.62d 0.634.62e 0.634.645 0.633.647 0.634.647 0.637.645",
  "0.633.62c 0.633.62d 0.633.62e 0.634.62c 0.634.62d 0.634.62e 0.637.645 0.638.645 0.627.64b 0.627.64b",
  "12.62a.62c.645 0.62a.62d.62c 0.62a.62d.62c 0.62a.62d.645 0.62a.62e.645 0.62a.645.62c 0.62a.645.62d",
  "0.62a.645.62e 0.62c.645.62d 0.62c.645.62d 0.62d.645.64a 0.62d.645.649 0.633.62d.62c 0.633.62c.62d",
  "0.633.62c.649 0.633.645.62d 0.633.645.62d 0.633.645.62c 0.633.645.645 0.633.645.645 0.635.62d.62d",
  "0.635.62d.62d 0.635.645.645 0.634.62d.645 0.634.62d.645 0.634.62c.64a 0.634.645.62e 0.634.645.62e",
  "0.634.645.645 0.634.645.645 0.636.62d.649 0.636.62e.645 0.636.62e.645 0.637.645.62d 0.637.645.62d",
  "0.637.645.645 0.637.645.64a 0.639.62c.645 0.639.645.645 0.639.645.645 0.639.645.649 0.63a.645.645",
  "0.63a.645.64a 0.63a.645.649 0.641.62e.645 0.641.62e.645 0.642.645.62d 0.642.645.645 0.644.62d.645",
  "0.644.62d.64a 0.644.62d.649 0.644.62c.62c 0.644.62c.62c 0.644.62e.645 0.644.62e.645 0.644.645.62d",
  "0.644.645.62d 0.645.62d.62c 0.645.62d.645 0.645.62d.64a 0.645.62c.62d 0.645.62c.645 0.645.62e.62c",
  "0.645.62e.645 2.645.62c.62e 0.647.645.62c 0.647.645.645 0.646.62d.645 0.646.62d.649 0.646.62c.645",
  "0.646.62c.645 0.646.62c.649 0.646.645.64a 0.646.645.649 0.64a.645.645 0.64a.645.645 0.628.62e.64a",
  "0.62a.62c.64a 0.62a.62c.649 0.62a.62e.64a 0.62a.62e.649 0.62a.645.64a 0.62a.645.649 0.62c.645.64a",
  "0.62c.62d.649 0.62c.645.649 0.633.62e.649 0.635.62d.64a 0.634.62d.64a 0.636.62d.64a 0.644.62c.64a",
  "0.644.645.64a 0.64a.62d.64a 0.64a.62c.64a 0.64a.645.64a 0.645.645.64a 0.642.645.64a 0.646.62d.64a",
  "0.642.645.62d 0.644.62d.645 0.639.645.64a 0.643.645.64a 0.646.62c.62d 0.645.62e.64a 0.644.62c.645",
  "0.643.645.645 0.644.62c.645 0.646.62c.62d 0.62c.62d.64a 0.62d.62c.64a 0.645.62c.64a 0.641.645.64a",
  "0.628.62d.64a 0.643.645.645 0.639.62c.645 0.635.645.645 0.633.62e.64a 0.646.62c.64a 28.635.644.6d2",
  "0.642.644.6d2 0.627.644.644.647 0.627.643.628.631 0.645.62d.645.62f 0.635.644.639.645 0.631.633.648.644",
  "0.639.644.64a.647 0.648.633.644.645 0.635.644.649",
  "0.635.644.649.20.627.644.644.647.20.639.644.64a.647.20.648.633.644.645 0.62c.644.20.62c.644.627.644.647",
  "0.631.6cc.627.644 4c.20.305 0.20.305 0.20.305 0.20.305 23.20.64b 0.640.64b 0.20.64c 1.20.64d 1.20.64e",
  "0.640.64e 0.20.64f 0.640.64f 0.20.650 0.640.650 0.20.651 0.640.651 0.20.652 0.640.652 75.644.622 0.644.622",
  "0.644.623 0.644.623 0.644.625 0.644.625 0.644.627 0.644.627 e6.20.304 d17a.1d157.1d165 0.1d158.1d165",
  "0.1d158.1d165.1d16e 0.1d158.1d165.1d16f 0.1d158.1d165.1d170 0.1d158.1d165.1d171 0.1d158.1d165.1d172",
  "56.1d1b9.1d165 0.1d1ba.1d165 0.1d1b9.1d165.1d16e 0.1d1ba.1d165.1d16e 0.1d1b9.1d165.1d16f",
  "0.1d1ba.1d165.1d16f 1f40.30.2c 0.31.2c 0.32.2c 0.33.2c 0.34.2c 0.35.2c 0.36.2c 0.37.2c 0.38.2c 0.39.2c",
  "5.28.61.29 0.28.62.29 0.28.63.29 0.28.64.29 0.28.65.29 0.28.66.29 0.28.67.29 0.28.68.29 0.28.69.29",
  "0.28.6a.29 0.28.6b.29 0.28.6c.29 0.28.6d.29 0.28.6e.29 0.28.6f.29 0.28.70.29 0.28.71.29 0.28.72.29",
  "0.28.73.29 0.28.74.29 0.28.75.29 0.28.76.29 0.28.77.29 0.28.78.29 0.28.79.29 0.28.7a.29 0.3014.73.3015",
  "2.63.64 0.77.7a 1b.68.76 0.6d.76 0.73.64 0.73.73 0.70.70.76 0.77.63 1a.6d.63 0.6d.64 0.6d.72 23.64.6a",
  "6f.307b.304b 0.30b3.30b3 3e.3014.672c.3015 0.3014.4e09.3015 0.3014.4e8c.3015 0.3014.5b89.3015",
  "0.3014.70b9.3015 0.3014.6253.3015 0.3014.76d7.3015 0.3014.52dd.3015 0.3014.6557.3015"]

end Availability.Url.Domain
